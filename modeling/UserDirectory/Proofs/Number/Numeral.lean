import UserDirectory.Number.Numeral

/-!
# Plain numerals

A plain numeral is ASCII digits behind a minus sign or none. The text of an integer is one, and is
read as this integer.
-/
namespace UserDirectory.Number

open Text

/-- The value of an ASCII digit, and nothing sensible for other characters. -/
def digitOf (c : Char) : Nat := c.toNat - 0x30

theorem isDigit_of_mem_natText {n : Nat} {c : Char} (h : c ∈ natText n) : c.isDigit = true :=
  Nat.isDigit_of_mem_toDigits (by decide) (by decide) h

theorem natText_ne_nil (n : Nat) : natText n ≠ [] := Nat.toDigits_ne_nil

theorem mapM_asciiDigit? {s : List Char} (h : ∀ c ∈ s, c.isDigit = true) :
    s.mapM asciiDigit? = some (s.map digitOf) := by
  induction s with
  | nil => rfl
  | cons c s ih =>
    have hc : asciiDigit? c = some (digitOf c) := by simp [asciiDigit?, digitOf, h c (by simp)]
    simp [hc, ih fun c' hc' => h c' (List.mem_cons_of_mem c hc')]

theorem value_map_digitOf (s : List Char) : value (s.map digitOf) = Nat.ofDigitChars 10 s 0 := by
  rw [value, List.foldl_map, Nat.ofDigitChars_eq_foldl]
  congr 1
  funext n c
  rw [Nat.mul_comm n 10]
  rfl

theorem value_natText (n : Nat) : value ((natText n).map digitOf) = n := by
  rw [value_map_digitOf]
  exact Nat.ofDigitChars_ten_toDigits

/-! ## Plain numerals -/

/-- A digit is no minus sign. -/
theorem head?_ne_minus {s : List Char} (ascii : ∀ c ∈ s, c.isDigit = true) :
    s.head? ≠ some '-' := by
  intro h
  have digit := ascii '-' (List.mem_of_mem_head? h)
  revert digit
  decide

theorem readPlain?_minus (s : List Char) :
    readPlain? ('-' :: s) = if s = [] then none else (s.mapM asciiDigit?).map (true, ·) := rfl

theorem readPlain?_of_head?_ne {s : List Char} (h : s.head? ≠ some '-') :
    readPlain? s = if s = [] then none else (s.mapM asciiDigit?).map (false, ·) := by
  unfold readPlain?
  split
  rename_i body parts
  split at parts
  · simp at h
  · cases parts
    rfl

theorem readPlain?_digits {s : List Char} (nonempty : s ≠ []) (ascii : ∀ c ∈ s, c.isDigit = true) :
    readPlain? s = some (false, s.map digitOf) := by
  rw [readPlain?_of_head?_ne (head?_ne_minus ascii), if_neg nonempty, mapM_asciiDigit? ascii,
    Option.map_some]

theorem readPlain?_minus_digits {s : List Char} (nonempty : s ≠ [])
    (ascii : ∀ c ∈ s, c.isDigit = true) :
    readPlain? ('-' :: s) = some (true, s.map digitOf) := by
  rw [readPlain?_minus, if_neg nonempty, mapM_asciiDigit? ascii, Option.map_some]

theorem mapM_asciiDigit?_eq_some {s : List Char} {values : List Nat}
    (h : s.mapM asciiDigit? = some values) :
    (∀ c ∈ s, c.isDigit = true) ∧ values = s.map digitOf := by
  have ascii : ∀ c ∈ s, c.isDigit = true := by
    induction s generalizing values with
    | nil => simp
    | cons c s ih =>
      simp only [List.mapM_cons, Option.bind_eq_bind, Option.bind_eq_some_iff, asciiDigit?] at h
      obtain ⟨d, first, ds, rest, -⟩ := h
      intro c' hc'
      rcases List.mem_cons.1 hc' with rfl | later
      · by_cases digit : c'.isDigit = true
        · exact digit
        · rw [if_neg digit] at first
          cases first
      · exact ih rest c' later
  rw [mapM_asciiDigit? ascii] at h
  exact ⟨ascii, (Option.some.inj h).symm⟩

/-- No other text is read than digits behind a minus sign or none. -/
theorem exists_digits_of_readPlain? {s : List Char} {negative : Bool} {values : List Nat}
    (h : readPlain? s = some (negative, values)) :
    ∃ digits : List Char, digits ≠ [] ∧ (∀ c ∈ digits, c.isDigit = true) ∧
      values = digits.map digitOf ∧
      s = if negative then '-' :: digits else digits := by
  have body : ∀ {sign : Bool} {digits : List Char},
      (if digits = [] then none else (digits.mapM asciiDigit?).map (sign, ·)) =
        some (negative, values) →
        sign = negative ∧ digits ≠ [] ∧ (∀ c ∈ digits, c.isDigit = true) ∧
            values = digits.map digitOf := by
    intro sign digits read
    split at read
    · cases read
    · rename_i nonempty
      obtain ⟨_, mapped, same⟩ := Option.map_eq_some_iff.1 read
      obtain ⟨rfl, rfl⟩ := Prod.mk.inj same
      exact ⟨rfl, nonempty, mapM_asciiDigit?_eq_some mapped⟩
  by_cases sign : s.head? = some '-'
  · obtain ⟨digits, rfl⟩ := List.head?_eq_some_iff.1 sign
    rw [readPlain?_minus] at h
    obtain ⟨rfl, nonempty, ascii, rfl⟩ := body h
    exact ⟨digits, nonempty, ascii, rfl, rfl⟩
  · rw [readPlain?_of_head?_ne sign] at h
    obtain ⟨rfl, nonempty, ascii, rfl⟩ := body h
    exact ⟨s, nonempty, ascii, rfl, rfl⟩

/-- A numeral and its integer: ASCII digits, at most 4300 of them, behind a minus sign or none. -/
inductive Numeral : List Char → Int → Prop
  | plain {digits : List Char} (nonempty : digits ≠ []) (ascii : ∀ c ∈ digits, c.isDigit = true)
      (few : digits.length ≤ 4300) : Numeral digits (Nat.ofDigitChars 10 digits 0)
  | minus {digits : List Char} (nonempty : digits ≠ []) (ascii : ∀ c ∈ digits, c.isDigit = true)
      (few : digits.length ≤ 4300) : Numeral ('-' :: digits) (-Nat.ofDigitChars 10 digits 0)

theorem Numeral.isDigit_or_eq_minus {s : List Char} {n : Int} (h : Numeral s n) :
    ∀ c ∈ s, c.isDigit = true ∨ c = '-' := by
  cases h with
  | plain nonempty ascii few => exact fun c hc => .inl (ascii c hc)
  | minus nonempty ascii few =>
    intro c hc
    rcases List.mem_cons.1 hc with rfl | later
    · exact .inr rfl
    · exact .inl (ascii c later)

/-- The numerals are the texts that are read as plain numerals of few enough digits. -/
theorem numeral_iff {s : List Char} {n : Int} :
    Numeral s n ↔ ∃ negative values, readPlain? s = some (negative, values) ∧
      values.length ≤ maxDigits ∧
      signed negative (value values) = n := by
  constructor
  · intro h
    cases h with
    | plain nonempty ascii few =>
      refine ⟨false, _, readPlain?_digits nonempty ascii, ?_, ?_⟩
      · rw [List.length_map]
        exact few
      · rw [value_map_digitOf]
        rfl
    | minus nonempty ascii few =>
      refine ⟨true, _, readPlain?_minus_digits nonempty ascii, ?_, ?_⟩
      · rw [List.length_map]
        exact few
      · rw [value_map_digitOf]
        rfl
  · rintro ⟨negative, values, read, few, rfl⟩
    obtain ⟨digits, nonempty, ascii, rfl, rfl⟩ := exists_digits_of_readPlain? read
    rw [List.length_map] at few
    rw [value_map_digitOf]
    cases negative with
    | false => exact .plain nonempty ascii few
    | true => exact .minus nonempty ascii few

/-! ## Integers -/

/-- The text of an integer is read as its sign and the digits of its size. -/
theorem readPlain?_intText (n : Int) :
    readPlain? (intText n) = some (decide (n < 0), (natText n.natAbs).map digitOf) := by
  cases n with
  | ofNat n => exact readPlain?_digits (natText_ne_nil n) fun c hc => isDigit_of_mem_natText hc
  | negSucc n =>
    have negative : decide (Int.negSucc n < 0) = true := decide_eq_true (Int.negSucc_lt_zero n)
    rw [negative]
    exact readPlain?_minus_digits (natText_ne_nil (n + 1)) fun c hc => isDigit_of_mem_natText hc

/-- The text of an integer holds ASCII digits and perhaps a minus sign. -/
theorem isDigit_or_eq_minus_of_mem_intText {n : Int} {c : Char} (h : c ∈ intText n) :
    c.isDigit = true ∨ c = '-' := by
  cases n with
  | ofNat n => exact .inl (isDigit_of_mem_natText h)
  | negSucc n =>
    rcases List.mem_cons.1 h with h | h
    · exact .inr h
    · exact .inl (isDigit_of_mem_natText h)

theorem signed_value_natText (n : Int) :
    signed (decide (n < 0)) (value ((natText n.natAbs).map digitOf)) = n := by
  rw [value_natText, signed]
  by_cases negative : n < 0
  · rw [decide_eq_true negative, if_pos rfl]
    omega
  · rw [decide_eq_false negative, if_neg Bool.false_ne_true]
    omega

end UserDirectory.Number
