import UserDirectory.Text.CharClass
import UserDirectory.Text.NormalForm

/-!
# Normal forms of plain texts

No character below the first combining mark is taken apart, moved or taken up by another one. So an
ASCII text is its own normal form.
-/
namespace UserDirectory.Text

variable {n : Nat} {s : List Nat}

/-- The first combining mark. -/
def firstMark : Nat := 0x300

theorem combiningClass_of_lt (h : n < firstMark) : combiningClass n = 0 := if_pos h

theorem placeMark_of_lt (h : ∀ m ∈ s, m < firstMark) (n : Nat) : placeMark n s = n :: s := by
  cases s with
  | nil => rfl
  | cons m rest => simp [placeMark, combiningClass_of_lt (h m List.mem_cons_self)]

theorem orderMarks_of_lt (h : ∀ m ∈ s, m < firstMark) : orderMarks s = s := by
  induction s with
  | nil => rfl
  | cons n rest ih =>
    have later : ∀ m ∈ rest, m < firstMark := fun m hm => h m (List.mem_cons_of_mem _ hm)
    rw [orderMarks, List.foldr_cons, ← orderMarks, ih later, placeMark_of_lt later]

theorem composite?_of_lt (first : Nat) (h : n < firstMark) : composite? first n = none := by
  have marks : ∀ c ∈ compositions, firstMark ≤ c.second := by decide +kernel
  have noSyllable : syllable? first n = none := by
    have beforeVowels : n < vowelBase := Nat.lt_trans h (by decide)
    have beforeTrails : n < trailBase := Nat.lt_trans h (by decide)
    rw [syllable?, if_neg (by omega), if_neg (by omega)]
  have noComposition : (compositions.find? fun c => c.first == first && c.second == n) = none := by
    rw [List.find?_eq_none]
    intro c hc found
    have := marks c hc
    simp only [Bool.and_eq_true, beq_iff_eq] at found
    omega
  simp [composite?, noSyllable, noComposition]

theorem composeAfter_of_lt (starter : Nat) (h : ∀ m ∈ s, m < firstMark) :
    composeAfter starter [] s = starter :: s := by
  induction s generalizing starter with
  | nil => rfl
  | cons n rest ih =>
    have first := h n List.mem_cons_self
    simp [composeAfter, outOfReach, composite?_of_lt starter first, combiningClass_of_lt first,
      ih n fun m hm => h m (List.mem_cons_of_mem _ hm)]

theorem compose_of_lt (h : ∀ m ∈ s, m < firstMark) : compose s = s := by
  cases s with
  | nil => rfl
  | cons n rest =>
    rw [compose, if_pos (combiningClass_of_lt (h n List.mem_cons_self))]
    exact composeAfter_of_lt n fun m hm => h m (List.mem_cons_of_mem _ hm)

/-- An ASCII text is its own normal form. -/
theorem normalForm_of_ascii {s : List Char} (h : ∀ c ∈ s, isAscii c = true) : normalForm s = s := by
  have below : ∀ c ∈ s, c.toNat < 0x80 := fun c hc => of_decide_eq_true (h c hc)
  have whole : (s.flatMap fun c => decompose c.toNat) = s.map Char.toNat := by
    rw [List.map_eq_flatMap, List.flatMap_def, List.flatMap_def]
    refine congrArg List.flatten (List.map_congr_left fun c hc => ?_)
    have := below c hc
    rw [decompose, if_pos (by omega)]
  have early : ∀ m ∈ s.map Char.toNat, m < firstMark := by
    intro m hm
    obtain ⟨c, hc, rfl⟩ := List.mem_map.1 hm
    exact Nat.lt_trans (below c hc) (by decide)
  rw [normalForm, whole, orderMarks_of_lt early, compose_of_lt early, List.map_map]
  simp [Function.comp_def]

end UserDirectory.Text
