import Mathlib.Data.List.DropRight
import UserDirectory.Text.CharClass

/-!
# Trimmed texts

Trimming leaves a text that neither begins nor ends with a character of the class, and no such text
is trimmed any further.
-/
namespace UserDirectory.Text

/-! ## Blanks -/

/-- White space and the separators, as ranges. -/
def blanks : Ranges := (0x1C, 0x1F) :: whiteSpace

theorem not_isBlank_of_apart {c : Char}
    (apart : ∀ range ∈ blanks, c.toNat < range.1 ∨ range.2 < c.toNat) :
    isBlank c = false := by
  have noSpace : isWhiteSpace c = false := by
    rw [← Bool.not_eq_true, isWhiteSpace, Ranges.holds_iff ascending_whiteSpace]
    rintro ⟨range, hrange, first, last⟩
    have := apart range (List.mem_cons_of_mem _ hrange)
    omega
  have noSeparator := apart (0x1C, 0x1F) List.mem_cons_self
  simp only [isBlank, noSpace, Bool.false_or, Bool.and_eq_false_iff, decide_eq_false_iff_not]
  omega

/-! ## Trimming -/

variable {p : Char → Bool} {s : List Char}

/-- A text that neither begins nor ends with a character of the class. -/
structure Trimmed (p : Char → Bool) (s : List Char) : Prop where
  first : ∀ c rest, s = c :: rest → p c = false
  last : ∀ c rest, s = rest ++ [c] → p c = false

theorem trim_eq_rdropWhile (p : Char → Bool) (s : List Char) :
    trim p s = (s.dropWhile p).rdropWhile p := rfl

theorem trimmed_of_forall (outside : ∀ c ∈ s, p c = false) : Trimmed p s where
  first := by
    rintro c rest rfl
    exact outside c List.mem_cons_self
  last := by
    rintro c rest rfl
    exact outside c (List.mem_append_right _ List.mem_cons_self)

theorem trimmed_trim (p : Char → Bool) (s : List Char) : Trimmed p (trim p s) := by
  rw [trim_eq_rdropWhile]
  refine ⟨fun c rest begins => ?_, fun c rest ends => ?_⟩
  · obtain ⟨more, whole⟩ := List.rdropWhile_prefix p (s.dropWhile p)
    have first := List.head?_dropWhile_not p s
    rwa [← whole, begins] at first
  · have nonempty : (s.dropWhile p).rdropWhile p ≠ [] := by simp [ends]
    simpa [ends] using List.rdropWhile_last_not p (s.dropWhile p) nonempty

theorem Trimmed.trim_eq (trimmed : Trimmed p s) : trim p s = s := by
  have begun : s.dropWhile p = s := by
    cases s with
    | nil => rfl
    | cons c rest => exact List.dropWhile_cons_of_neg (by simp [trimmed.first c rest rfl])
  rw [trim_eq_rdropWhile, begun, List.rdropWhile_eq_self_iff]
  intro nonempty
  simp [trimmed.last _ _ (List.dropLast_concat_getLast nonempty).symm]

theorem trim_eq_nil_iff : trim p s = [] ↔ ∀ c ∈ s, p c = true := by
  rw [trim_eq_rdropWhile, List.rdropWhile_eq_nil_iff]
  constructor
  · intro blank
    rw [← List.dropWhile_eq_nil_iff]
    cases rest : s.dropWhile p with
    | nil => rfl
    | cons c more =>
      have first := List.head?_dropWhile_not p s
      simp [rest, blank c (by simp [rest])] at first
  · intro all
    rw [List.dropWhile_eq_nil_iff.2 all]
    simp

/-- A text stays trimmed if each character is written as some others, none of the class unless it
was itself. -/
theorem Trimmed.flatMap (trimmed : Trimmed p s) {f : Char → List Char} (written : ∀ c, f c ≠ [])
    (outside : ∀ c, p c = false → ∀ d ∈ f c, p d = false) : Trimmed p (s.flatMap f) := by
  refine ⟨fun d rest begins => ?_, fun d rest ends => ?_⟩
  · cases s with
    | nil => simp at begins
    | cons c more =>
      refine outside c (trimmed.first c more rfl) d (List.mem_of_mem_head? ?_)
      rw [← List.head?_append_of_ne_nil _ (written c), ← List.flatMap_cons, begins]
      rfl
  · rcases List.eq_nil_or_concat s with rfl | ⟨more, c, rfl⟩
    · simp at ends
    · refine outside c (trimmed.last c more (List.concat_eq_append ..)) d (List.mem_of_getLast? ?_)
      rw [List.concat_eq_append, List.flatMap_append, List.flatMap_singleton] at ends
      rw [← List.getLast?_append_of_ne_nil _ (written c), ends, List.getLast?_concat]

end UserDirectory.Text
