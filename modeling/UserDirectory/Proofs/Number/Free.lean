import Mathlib.Algebra.Group.Nat.Defs
import UserDirectory.Proofs.Number.Numeral
import UserDirectory.Proofs.Text.Base64
import UserDirectory.Proofs.Text.Trim

/-!
# Free numerals

Every integer that is read from a free numeral, in whatever script and with whatever signs, blanks
and underscores, has few enough digits to be written out, and its text is a free numeral of the same
integer.
-/
namespace UserDirectory.Number

open Text

/-! ## Digits that are read -/

theorem exists_of_map_cons {run : Option (List Nat × List Char)} {d : Nat} {digits : List Nat}
    {rest : List Char} (h : run.map (fun (ds, more) => (d :: ds, more)) = some (digits, rest)) :
    ∃ later, run = some (later, rest) ∧ digits = d :: later := by
  obtain ⟨⟨later, behind⟩, found, same⟩ := Option.map_eq_some_iff.1 h
  obtain ⟨rfl, rfl⟩ := Prod.mk.inj same
  exact ⟨later, found, rfl⟩

section

variable {digit? : Char → Option Nat} {s rest : List Char} {digits : List Nat}

theorem lt_of_mem_moreDigits (small : ∀ c d, digit? c = some d → d < 10)
    (h : moreDigits digit? s = some (digits, rest)) : ∀ d ∈ digits, d < 10 := by
  fun_induction moreDigits digit? s generalizing digits rest with
  | case1 => simp_all
  | case2 c more d first ih =>
    obtain ⟨later, found, rfl⟩ := exists_of_map_cons h
    exact List.forall_mem_cons.2 ⟨small c d first, ih found⟩
  | case3 => cases h
  | case4 c more separate d first ih =>
    obtain ⟨later, found, rfl⟩ := exists_of_map_cons h
    exact List.forall_mem_cons.2 ⟨small c d first, ih found⟩
  | case5 => cases h
  | case6 => simp_all

theorem lt_of_mem_digitRun (small : ∀ c d, digit? c = some d → d < 10)
    (h : digitRun digit? s = some (digits, rest)) : ∀ d ∈ digits, d < 10 := by
  cases s with
  | nil => cases h
  | cons c s =>
    rw [digitRun] at h
    split at h
    · rename_i d first
      obtain ⟨later, found, rfl⟩ := exists_of_map_cons h
      exact List.forall_mem_cons.2 ⟨small c d first, lt_of_mem_moreDigits small found⟩
    · cases h

end

theorem value_lt {digits : List Nat} (small : ∀ d ∈ digits, d < 10) :
    value digits < 10 ^ digits.length := by
  induction digits using List.reverseRecOn with
  | nil => decide
  | append_singleton digits d ih =>
    have front := ih fun e he => small e (List.mem_append_left _ he)
    have last := small d (List.mem_append_right _ List.mem_cons_self)
    rw [value_append, List.length_append, List.length_singleton, Nat.pow_succ]
    omega

/-! ## Texts of integers -/

/-- What holds of the ASCII digits among the first 128 characters holds of every ASCII digit. -/
theorem forall_isDigit {p : Char → Prop}
    (ascii : ∀ n < 128, (Char.ofNat n).isDigit = true → p (Char.ofNat n)) {c : Char}
    (h : c.isDigit = true) : p c := by
  have inside : c.toNat < 128 := Base64.toNat_lt_of_isAlphanum (by simp [Char.isAlphanum, h])
  rw [← Char.ofNat_toNat c] at h ⊢
  exact ascii c.toNat inside h

theorem decimalDigit?_of_isDigit {c : Char} (h : c.isDigit = true) :
    decimalDigit? c = some (digitOf c) :=
  forall_isDigit (p := fun c => decimalDigit? c = some (digitOf c)) (by decide +kernel) h

theorem moreDigits_digits {s : List Char} (ascii : ∀ c ∈ s, c.isDigit = true) :
    moreDigits decimalDigit? s = some (s.map digitOf, []) := by
  induction s with
  | nil => rfl
  | cons c s ih =>
    have digit := ascii c List.mem_cons_self
    have plain : c ≠ '_' := by
      rintro rfl
      exact absurd digit (by decide)
    rw [moreDigits, decimalDigit?_of_isDigit digit,
      ih fun d hd => ascii d (List.mem_cons_of_mem _ hd)]
    · rfl
    · exact fun d rest same => absurd same plain

theorem digitRun_digits {s : List Char} (nonempty : s ≠ []) (ascii : ∀ c ∈ s, c.isDigit = true) :
    digitRun decimalDigit? s = some (s.map digitOf, []) := by
  cases s with
  | nil => exact absurd rfl nonempty
  | cons c s =>
    obtain ⟨first, later⟩ := List.forall_mem_cons.1 ascii
    rw [digitRun, decimalDigit?_of_isDigit first, moreDigits_digits later]
    rfl

theorem splitSign_intText (n : Int) :
    splitSign (intText n) = (decide (n < 0), natText n.natAbs) := by
  cases n with
  | ofNat n =>
    have unsigned : ∀ c ∈ natText n, c ≠ '-' ∧ c ≠ '+' := by
      intro c hc
      have digit := isDigit_of_mem_natText hc
      constructor <;> rintro rfl <;> exact absurd digit (by decide)
    change splitSign (natText n) = (false, natText n)
    unfold splitSign
    split
    · rename_i same
      exact absurd rfl (unsigned '-' (by simp [same])).1
    · rename_i same
      exact absurd rfl (unsigned '+' (by simp [same])).2
    · rfl
  | negSucc n =>
    rw [decide_eq_true (Int.negSucc_lt_zero n)]
    rfl

theorem not_isWhiteSpace_of_mem_intText {n : Int} {c : Char} (h : c ∈ intText n) :
    isWhiteSpace c = false := by
  rcases isDigit_or_eq_minus_of_mem_intText h with digit | rfl
  · exact forall_isDigit (p := fun c => isWhiteSpace c = false) (by decide +kernel) digit
  · decide +kernel

/-! ## Reading and writing -/

/-- The text of an integer of few enough digits is read as this integer. -/
theorem readFree_text {n : Int} (few : (natText n.natAbs).length ≤ maxDigits) :
    readFree (text n) = .ok n := by
  have trimmed := (trimmed_of_forall fun _ => not_isWhiteSpace_of_mem_intText (n := n)).trim_eq
  have digits := digitRun_digits (natText_ne_nil n.natAbs) fun _ => isDigit_of_mem_natText
  simp only [readFree, text, String.toList_ofList, trimmed, splitSign_intText, digits,
    List.length_map, if_pos, if_neg (Nat.not_lt.2 few), signed_value_natText]

/-- An integer that is read has few enough digits to be written out. -/
theorem length_natText_le_of_readFree {s : String} {n : Int} (h : readFree s = .ok n) :
    (natText n.natAbs).length ≤ maxDigits := by
  unfold readFree at h
  split at h
  rename_i negative body parted
  split at h
  · cases h
  · rename_i digits rest run
    split at h
    · cases h
    · rename_i few
      split at h
      · obtain rfl := Except.ok.inj h
        -- Signs, blanks and underscores do not count: the value is bounded by the digits alone.
        have bound := value_lt (lt_of_mem_digitRun (fun _ _ => decimalDigit?_lt) run)
        have size : (signed negative (value digits)).natAbs = value digits := by
          unfold signed
          split <;> omega
        rw [natText, Nat.length_toDigits_le_iff (by decide) (by decide), size]
        exact Nat.lt_of_lt_of_le bound (Nat.pow_le_pow_right (by decide) (Nat.not_lt.1 few))
      · cases h

end UserDirectory.Number
