import Mathlib.Data.List.Forall2
import UserDirectory.Text.Base64
import UserDirectory.Text.CharClass

/-!
# What base64 writes

The written text is URL-safe and reads back as the same bytes, whatever number of padding marks
stands behind it from the missing one or two on.
-/
namespace UserDirectory.Text.Base64

/-! ## Digits -/

/-- ASCII letters, digits, hyphen and underscore. -/
def isUrlSafe (c : Char) : Bool := c.isAlphanum || c == '-' || c == '_'

theorem digitValue?_digit : ∀ v < 64, digitValue? (digit v) = some v := by decide

theorem isUrlSafe_digit : ∀ v < 64, isUrlSafe (digit v) = true := by decide

theorem ne_mark_of_isUrlSafe {c : Char} (h : isUrlSafe c = true) : c ≠ '=' := by
  rintro rfl
  revert h
  decide

theorem toNat_lt_of_isAlphanum {c : Char} (h : c.isAlphanum = true) : c.toNat < 128 := by
  have ranges :
    ((decide (65 ≤ c.val ∧ c.val ≤ 90) || decide (97 ≤ c.val) && decide (c.val ≤ 122)) ||
      decide (48 ≤ c.val) && decide (c.val ≤ 57)) = true := h
  simp only [Bool.or_eq_true, Bool.and_eq_true, decide_eq_true_eq, UInt32.le_iff_toNat_le] at ranges
  have value : c.toNat = c.val.toNat := rfl
  have ends : (90 : UInt32).toNat < 128 ∧ (122 : UInt32).toNat < 128 ∧
    (57 : UInt32).toNat < 128 := by decide
  omega

theorem isAscii_of_isUrlSafe {c : Char} (h : isUrlSafe c = true) : isAscii c = true := by
  simp only [isUrlSafe, Bool.or_eq_true, beq_iff_eq] at h
  rcases h with (h | rfl) | rfl
  · exact decide_eq_true (toNat_lt_of_isAlphanum h)
  · decide
  · decide

/-- Every written character is URL-safe. -/
theorem isUrlSafe_of_mem_encode (bytes : List UInt8) : ∀ c ∈ encode bytes, isUrlSafe c = true := by
  fun_induction encode bytes with
  | case1 => simp
  | case2 a =>
    have ha := a.toNat_lt
    simp only [List.forall_mem_cons]
    exact ⟨isUrlSafe_digit _ (by omega), isUrlSafe_digit _ (by omega), by simp⟩
  | case3 a b =>
    have ha := a.toNat_lt
    have hb := b.toNat_lt
    simp only [List.forall_mem_cons]
    exact ⟨isUrlSafe_digit _ (by omega), isUrlSafe_digit _ (by omega),
      isUrlSafe_digit _ (by omega), by simp⟩
  | case4 a b c rest ih =>
    have ha := a.toNat_lt
    have hb := b.toNat_lt
    have hc := c.toNat_lt
    simp only [List.forall_mem_cons]
    exact ⟨isUrlSafe_digit _ (by omega), isUrlSafe_digit _ (by omega), isUrlSafe_digit _ (by omega),
      isUrlSafe_digit _ (by omega), ih⟩

/-! ## Reading back -/

/-- A digit is read, whatever padding marks stood before it. -/
theorem scan_digit (group : Group) (padding : Nat) {v : Nat} (h : v < 64) (rest : List Char) :
    scan group padding (digit v :: rest) =
      (scan (group.push v).2 0 rest).map ((group.push v).1 ++ ·) := by
  have mark : digit v ≠ '=' := ne_mark_of_isUrlSafe (isUrlSafe_digit v h)
  rw [scan, if_neg mark, digitValue?_digit v h]

/-- Marks are skipped where no group has been begun. -/
theorem scan_empty_marks (padding marks : Nat) :
    scan .empty padding (List.replicate marks '=') = some [] := by
  induction marks with
  | zero => rfl
  | succ marks ih => simpa [List.replicate_succ, scan, Group.digits] using ih

/-- The number of marks that complete the last group. -/
def missingMarks (length : Nat) : Nat := (4 - length % 4) % 4

/-- Enough marks complete an unfinished group, and those behind them do not count. -/
theorem scan_marks {group : Group} (h : 2 ≤ group.digits) {marks : Nat}
    (enough : 4 ≤ group.digits + marks) :
    scan group 0 (List.replicate marks '=') = some [] := by
  cases group with
  | empty => simp [Group.digits] at h
  | one => simp [Group.digits] at h
  | two =>
    obtain ⟨more, rfl⟩ : ∃ more, marks = more + 2 :=
      ⟨marks - 2, by simp [Group.digits] at enough; omega⟩
    simp [List.replicate_succ, scan, Group.digits]
  | three =>
    obtain ⟨more, rfl⟩ : ∃ more, marks = more + 1 :=
      ⟨marks - 1, by simp [Group.digits] at enough; omega⟩
    simp [List.replicate_succ, scan, Group.digits]

/-- Reading finds the bytes that were written, if there are enough marks behind them. -/
theorem scan_encode_append (bytes : List UInt8) {marks : Nat}
    (h : missingMarks (encode bytes).length ≤ marks) :
    scan .empty 0 (encode bytes ++ List.replicate marks '=') = some bytes := by
  fun_induction encode bytes with
  | case1 => exact scan_empty_marks 0 marks
  | case2 a =>
    have ha := a.toNat_lt
    have enough : 2 ≤ marks := by simpa [missingMarks] using h
    have byte : a.toNat / 4 * 4 + a.toNat % 4 * 16 / 16 = a.toNat := by omega
    rw [List.cons_append, scan_digit _ _ (by omega), List.cons_append, scan_digit _ _ (by omega),
      List.nil_append]
    simp only [Group.push]
    rw [scan_marks (by simp only [Group.digits]; omega) (by simp only [Group.digits]; omega)]
    simp only [Option.map_some, List.nil_append, List.append_nil, byte, UInt8.ofNat_toNat]
  | case3 a b =>
    have ha := a.toNat_lt
    have hb := b.toNat_lt
    have enough : 1 ≤ marks := by simpa [missingMarks] using h
    have first : a.toNat / 4 * 4 + (a.toNat % 4 * 16 + b.toNat / 16) / 16 = a.toNat := by omega
    have second : (a.toNat % 4 * 16 + b.toNat / 16) % 16 * 16 + b.toNat % 16 * 4 / 4 = b.toNat := by
      omega
    rw [List.cons_append, scan_digit _ _ (by omega), List.cons_append, scan_digit _ _ (by omega),
      List.cons_append, scan_digit _ _ (by omega), List.nil_append]
    simp only [Group.push]
    rw [scan_marks (by simp only [Group.digits]; omega) (by simp only [Group.digits]; omega)]
    simp only [Option.map_some, List.nil_append, List.cons_append, first, second, UInt8.ofNat_toNat]
  | case4 a b c rest ih =>
    have ha := a.toNat_lt
    have hb := b.toNat_lt
    have hc := c.toNat_lt
    have enough : missingMarks (encode rest).length ≤ marks := by
      simp only [missingMarks, List.length_cons] at h ⊢
      omega
    have first : a.toNat / 4 * 4 + (a.toNat % 4 * 16 + b.toNat / 16) / 16 = a.toNat := by omega
    have second :
        (a.toNat % 4 * 16 + b.toNat / 16) % 16 * 16 + (b.toNat % 16 * 4 + c.toNat / 64) / 4 =
          b.toNat := by omega
    have third : (b.toNat % 16 * 4 + c.toNat / 64) % 4 * 64 + c.toNat % 64 = c.toNat := by omega
    simp only [List.cons_append]
    rw [scan_digit _ _ (by omega), scan_digit _ _ (by omega), scan_digit _ _ (by omega),
      scan_digit _ _ (by omega)]
    simp only [Group.push]
    rw [ih enough]
    simp only [Option.map_some, List.nil_append, List.cons_append, first, second, third,
      UInt8.ofNat_toNat]

/-! ## Other spellings -/

/-- The digits of either alphabet. -/
def isDigitChar (c : Char) : Bool := isUrlSafe c || c == '+' || c == '/'

/-- A digit of the URL alphabet may be written as that of the standard one. -/
def Respells (a b : Char) : Prop := b = a ∨ (a = '-' ∧ b = '+') ∨ (a = '_' ∧ b = '/')

instance (a b : Char) : Decidable (Respells a b) := inferInstanceAs (Decidable (_ ∨ _))

theorem isAscii_of_isDigitChar {c : Char} (h : isDigitChar c = true) : isAscii c = true := by
  simp only [isDigitChar, Bool.or_eq_true, beq_iff_eq] at h
  rcases h with (safe | rfl) | rfl
  · exact isAscii_of_isUrlSafe safe
  · decide
  · decide

theorem exists_digitValue? {c : Char} (h : isDigitChar c = true) : ∃ v, digitValue? c = some v := by
  have digits : ∀ n < 128, isDigitChar (Char.ofNat n) = true →
      (digitValue? (Char.ofNat n)).isSome = true := by
    decide +kernel
  have known := digits c.toNat (of_decide_eq_true (isAscii_of_isDigitChar h))
  rw [Char.ofNat_toNat] at known
  exact Option.isSome_iff_exists.1 (known h)

theorem Respells.isDigitChar {a b : Char} (h : Respells a b) (safe : isUrlSafe a = true) :
    isDigitChar b = true := by
  rcases h with rfl | ⟨-, rfl⟩ | ⟨-, rfl⟩
  · simp [Base64.isDigitChar, safe]
  · decide
  · decide

/-- What a URL-safe text is respelled as holds digits alone. -/
theorem isDigitChar_of_mem_respelled {s u : List Char} (same : List.Forall₂ Respells s u)
    (safe : ∀ c ∈ s, isUrlSafe c = true) : ∀ c ∈ u, isDigitChar c = true := by
  induction same with
  | nil => simp
  | cons first _ ih =>
    rw [List.forall_mem_cons] at safe ⊢
    exact ⟨first.isDigitChar safe.1, ih safe.2⟩

theorem Respells.digitValue?_eq {a b : Char} (h : Respells a b) :
    digitValue? b = digitValue? a := by
  rcases h with rfl | ⟨rfl, rfl⟩ | ⟨rfl, rfl⟩
  · rfl
  · decide
  · decide

theorem Respells.eq_mark_iff {a b : Char} (h : Respells a b) : b = '=' ↔ a = '=' := by
  rcases h with rfl | ⟨rfl, rfl⟩ | ⟨rfl, rfl⟩
  · rfl
  · decide
  · decide

/-- Reading does not tell the two alphabets apart. -/
theorem scan_respelled {s u : List Char} (same : List.Forall₂ Respells s u) (group : Group)
    (padding : Nat)
    (rest : List Char) : scan group padding (u ++ rest) = scan group padding (s ++ rest) := by
  induction same generalizing group padding with
  | nil => rfl
  | cons first _ ih =>
    simp only [List.cons_append, scan, first.eq_mark_iff, first.digitValue?_eq, ih]

/-! ## Lengths that no text has -/

theorem digits_push (group : Group) (v : Nat) :
    (group.push v).2.digits = (group.digits + 1) % 4 := by
  cases group <;> simp [Group.push, Group.digits]

theorem digits_lt (group : Group) : group.digits < 4 := by
  cases group <;> simp [Group.digits]

/-- Marks do not complete a group of one digit. -/
theorem scan_one_marks {group : Group} (h : group.digits = 1) (padding marks : Nat) :
    scan group padding (List.replicate marks '=') = none := by
  induction marks with
  | zero => simp [scan, h]
  | succ marks ih => simpa [List.replicate_succ, scan, h] using ih

/-- Digits that leave one over are not read, whatever number of marks stands behind them. -/
theorem scan_eq_none {s : List Char} (digits : ∀ c ∈ s, isDigitChar c = true) {group : Group}
    (one : (group.digits + s.length) % 4 = 1) (padding marks : Nat) :
    scan group padding (s ++ List.replicate marks '=') = none := by
  induction s generalizing group padding with
  | nil =>
    have few := digits_lt group
    rw [List.length_nil] at one
    exact scan_one_marks (by omega) padding marks
  | cons c s ih =>
    obtain ⟨v, value⟩ := exists_digitValue? (digits c List.mem_cons_self)
    have mark : c ≠ '=' := by
      rintro rfl
      cases value
    have later : ((group.push v).2.digits + s.length) % 4 = 1 := by
      rw [List.length_cons] at one
      rw [digits_push]
      omega
    rw [List.cons_append, scan, if_neg mark, value]
    simp only [ih (fun c hc => digits c (List.mem_cons_of_mem _ hc)) later, Option.map_none]

end UserDirectory.Text.Base64
