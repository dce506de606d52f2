import UserDirectory.Text.Utf8

/-!
# UTF-8 reads what it writes, and nothing else

Each character is written as bytes that are read as this character, whatever follows them. The four
cases are the four lengths of a written character; that no surrogate is a character rules out the
broken three-byte form. The other way round, bytes that are read without a broken part have been
written of the characters in them.
-/
namespace UserDirectory.Text.Utf8

/-- A character is no surrogate and lies below U+110000. -/
theorem toNat_range (c : Char) : c.toNat < 0xD800 ∨ (0xDFFF < c.toNat ∧ c.toNat < 0x110000) :=
  c.valid

theorem toNat_ofNat_of_lt {n : Nat} (h : n < 0x100) : (UInt8.ofNat n).toNat = n := by
  simp
  omega

/-! ## Bytes of a character -/

/-- A byte that begins a character of several bytes. -/
theorem scan_lead {b : UInt8} {u : Unfinished} (h : start b = .lead u) (rest : List UInt8) :
    scan none (b :: rest) = scan (some u) rest := by
  simp [scan, h]

/-- A byte with six bits of the character, in the range that the byte before it leaves, goes on with
it. -/
theorem scan_six {value missing low high n : Nat} (least : low ≤ 0x80 + n % 0x40)
    (most : 0x80 + n % 0x40 ≤ high) (rest : List UInt8) :
    scan (some ⟨value, missing, low, high⟩) (.ofNat (0x80 + n % 0x40) :: rest) =
      if missing = 1 then some (.ofNat (value * 0x40 + n % 0x40)) :: scan none rest
      else scan (some ⟨value * 0x40 + n % 0x40, missing - 1, 0x80, 0xBF⟩) rest := by
  have byte : (UInt8.ofNat (0x80 + n % 0x40)).toNat = 0x80 + n % 0x40 :=
    toNat_ofNat_of_lt (by omega)
  have bits : (0x80 + n % 0x40) % 0x40 = n % 0x40 := by omega
  rw [scan]
  simp only [byte, bits, least, most, and_self, if_true]

/-- The same behind a byte that is not the first. -/
theorem scan_next_six (value missing n : Nat) (rest : List UInt8) :
    scan (some ⟨value, missing, 0x80, 0xBF⟩) (.ofNat (0x80 + n % 0x40) :: rest) =
      if missing = 1 then some (.ofNat (value * 0x40 + n % 0x40)) :: scan none rest
      else scan (some ⟨value * 0x40 + n % 0x40, missing - 1, 0x80, 0xBF⟩) rest :=
  scan_six (by omega) (by omega) rest

theorem start_two {n : Nat} (least : 0x80 ≤ n) (most : n < 0x800) :
    start (.ofNat (0xC0 + n / 0x40)) = .lead ⟨n / 0x40, 1, 0x80, 0xBF⟩ := by
  simp only [start, toNat_ofNat_of_lt (n := 0xC0 + n / 0x40) (by omega)]
  rw [if_neg (by omega), if_neg (by omega), if_pos (by omega), Nat.add_sub_cancel_left]

/-- The first of three bytes leaves a range for the second one that only overlong forms and
surrogates miss. -/
theorem start_three {n : Nat} (least : 0x800 ≤ n) (most : n < 0x10000)
    (valid : n < 0xD800 ∨ 0xDFFF < n) :
    ∃ low high, start (.ofNat (0xE0 + n / 0x1000)) = .lead ⟨n / 0x1000, 2, low, high⟩ ∧
      low ≤ 0x80 + n / 0x40 % 0x40 ∧ 0x80 + n / 0x40 % 0x40 ≤ high := by
  refine ⟨if 0xE0 + n / 0x1000 = 0xE0 then 0xA0 else 0x80, if 0xE0 + n / 0x1000 = 0xED then 0x9F
    else 0xBF, ?_, ?_⟩
  · simp only [start, toNat_ofNat_of_lt (n := 0xE0 + n / 0x1000) (by omega)]
    rw [if_neg (by omega), if_neg (by omega), if_neg (by omega), if_pos (by omega),
      Nat.add_sub_cancel_left]
  · constructor <;> split <;> omega

/-- The first of four bytes leaves a range that only overlong forms and what is too large miss. -/
theorem start_four {n : Nat} (least : 0x10000 ≤ n) (most : n < 0x110000) :
    ∃ low high, start (.ofNat (0xF0 + n / 0x40000)) = .lead ⟨n / 0x40000, 3, low, high⟩ ∧
      low ≤ 0x80 + n / 0x1000 % 0x40 ∧ 0x80 + n / 0x1000 % 0x40 ≤ high := by
  refine ⟨if 0xF0 + n / 0x40000 = 0xF0 then 0x90 else 0x80, if 0xF0 + n / 0x40000 = 0xF4 then 0x8F
    else 0xBF, ?_, ?_⟩
  · simp only [start, toNat_ofNat_of_lt (n := 0xF0 + n / 0x40000) (by omega)]
    rw [if_neg (by omega), if_neg (by omega), if_neg (by omega), if_neg (by omega),
      if_pos (by omega), Nat.add_sub_cancel_left]
  · constructor <;> split <;> omega

/-! ## Characters and texts -/

theorem scan_encodeChar_append (c : Char) (rest : List UInt8) :
    scan none (encodeChar c ++ rest) = some c :: scan none rest := by
  have range := toNat_range c
  by_cases one : c.toNat < 0x80
  · have first : start (.ofNat c.toNat) = .char c := by
      simp only [start, toNat_ofNat_of_lt (n := c.toNat) (by omega), if_pos one, Char.ofNat_toNat]
    simp only [encodeChar, if_pos one, List.cons_append, List.nil_append, scan, first]
  by_cases two : c.toNat < 0x800
  · have value : c.toNat / 0x40 * 0x40 + c.toNat % 0x40 = c.toNat := by omega
    simp only [encodeChar, if_neg one, if_pos two, List.cons_append, List.nil_append]
    rw [scan_lead (start_two (by omega) two), scan_next_six, if_pos (by rfl), value,
      Char.ofNat_toNat]
  by_cases three : c.toNat < 0x10000
  · obtain ⟨low, high, first, least, most⟩ := start_three (n := c.toNat) (by omega) three (by omega)
    have value : (c.toNat / 0x1000 * 0x40 + c.toNat / 0x40 % 0x40) * 0x40 + c.toNat % 0x40 =
      c.toNat := by omega
    simp only [encodeChar, if_neg one, if_neg two, if_pos three, List.cons_append, List.nil_append]
    rw [scan_lead first, scan_six least most, if_neg (by simp), scan_next_six, if_pos (by rfl),
      value, Char.ofNat_toNat]
  · obtain ⟨low, high, first, least, most⟩ := start_four (n := c.toNat) (by omega) (by omega)
    have value :
      ((c.toNat / 0x40000 * 0x40 + c.toNat / 0x1000 % 0x40) * 0x40 + c.toNat / 0x40 % 0x40) * 0x40 +
        c.toNat % 0x40 = c.toNat := by omega
    simp only [encodeChar, if_neg one, if_neg two, if_neg three, List.cons_append, List.nil_append]
    rw [scan_lead first, scan_six least most, if_neg (by simp), scan_next_six, if_neg (by simp),
      scan_next_six, if_pos (by rfl), value, Char.ofNat_toNat]

theorem scan_encode (s : List Char) : scan none (encode s) = s.map some := by
  induction s with
  | nil => rfl
  | cons c s ih => rw [encode_cons, scan_encodeChar_append, ih, List.map_cons]

theorem decode?_encode (s : List Char) : decode? (encode s) = some s := by
  rw [decode?, scan_encode]
  induction s with
  | nil => rfl
  | cons c s ih => simp [ih]

/-! ## What is read has been written -/

theorem toNat_ofNat {n : Nat} (valid : n.isValidChar) : (Char.ofNat n).toNat = n := by
  rw [Char.ofNat, dif_pos valid]
  rfl

/-- A byte stands for a character by itself, begins none, or says how many bytes are missing and in
which range the next one lies, outside of which are overlong forms, surrogates and what is too
large. -/
theorem start_cases (a : UInt8) :
    (a.toNat < 0x80 ∧ start a = .char (.ofNat a.toNat)) ∨ start a = .stray ∨
    (∃ d, 2 ≤ d ∧ d < 0x20 ∧ a.toNat = 0xC0 + d ∧ start a = .lead ⟨d, 1, 0x80, 0xBF⟩) ∨
    (∃ d low high, d < 0x10 ∧ a.toNat = 0xE0 + d ∧ start a = .lead ⟨d, 2, low, high⟩ ∧
      0x80 ≤ low ∧ high ≤ 0xBF ∧ (d = 0 → 0xA0 ≤ low) ∧ (d = 0xD → high ≤ 0x9F)) ∨
    ∃ d low high, d < 5 ∧ a.toNat = 0xF0 + d ∧ start a = .lead ⟨d, 3, low, high⟩ ∧
      0x80 ≤ low ∧ high ≤ 0xBF ∧ (d = 0 → 0x90 ≤ low) ∧ (d = 4 → high ≤ 0x8F) := by
  simp only [start]
  by_cases one : a.toNat < 0x80
  · exact .inl ⟨one, if_pos one⟩
  rw [if_neg one]
  by_cases below : a.toNat < 0xC2
  · exact .inr (.inl (if_pos below))
  rw [if_neg below]
  by_cases two : a.toNat < 0xE0
  · rw [if_pos two]
    exact .inr (.inr (.inl ⟨a.toNat - 0xC0, by omega, by omega, by omega, rfl⟩))
  rw [if_neg two]
  by_cases three : a.toNat < 0xF0
  · rw [if_pos three]
    refine .inr (.inr (.inr (.inl ⟨a.toNat - 0xE0, _, _, by omega, by omega, rfl, ?_, ?_, ?_, ?_⟩)))
    · split <;> omega
    · split <;> omega
    · split <;> omega
    · split <;> omega
  rw [if_neg three]
  by_cases four : a.toNat < 0xF5
  · rw [if_pos four]
    refine .inr (.inr (.inr (.inr ⟨a.toNat - 0xF0, _, _, by omega, by omega, rfl, ?_, ?_, ?_, ?_⟩)))
    · split <;> omega
    · split <;> omega
    · split <;> omega
    · split <;> omega
  exact .inr (.inl (if_neg four))

/-- A text goes on within a character only through a byte of the range that is left. -/
theorem exists_next {u : Unfinished} {bytes : List UInt8} {s : List Char}
    (h : scan (some u) bytes = s.map some) :
    ∃ b rest, bytes = b :: rest ∧ u.low ≤ b.toNat ∧ b.toNat ≤ u.high ∧
      if u.missing = 1 then ∃ s', s = .ofNat (u.value * 0x40 + b.toNat % 0x40) :: s' ∧
        scan none rest = s'.map some
      else scan (some ⟨u.value * 0x40 + b.toNat % 0x40, u.missing - 1, 0x80, 0xBF⟩) rest =
        s.map some := by
  cases bytes with
  | nil => cases s <;> simp [scan] at h
  | cons b rest =>
    rw [scan] at h
    split at h
    · rename_i range
      refine ⟨b, rest, rfl, range.1, range.2, ?_⟩
      by_cases last : u.missing = 1
      · simp only [if_pos last] at h ⊢
        cases s with
        | nil => cases h
        | cons c s =>
          obtain ⟨first, later⟩ := List.cons.inj h
          exact ⟨s, by rw [Option.some.inj first], later⟩
      · simpa only [if_neg last] using h
    · cases s <;> simp at h

/-! ### Characters of several bytes -/

theorem ofNat_eq {n : Nat} {b : UInt8} (h : n = b.toNat) : UInt8.ofNat n = b := by
  rw [h, UInt8.ofNat_toNat]

/-- The bits that a byte adds behind others. -/
theorem six_eq {n : Nat} {b : UInt8} (low : 0x80 ≤ b.toNat) (high : b.toNat ≤ 0xBF)
    (bits : n % 0x40 = b.toNat % 0x40) :
    UInt8.ofNat (0x80 + n % 0x40) = b :=
  ofNat_eq (by omega)

theorem encodeChar_two {a b : UInt8} {d : Nat} (least : 2 ≤ d) (most : d < 0x20)
    (first : a.toNat = 0xC0 + d) (low : 0x80 ≤ b.toNat) (high : b.toNat ≤ 0xBF) :
    encodeChar (.ofNat (d * 0x40 + b.toNat % 0x40)) = [a, b] := by
  obtain ⟨n, hn⟩ : ∃ n, n = d * 0x40 + b.toNat % 0x40 := ⟨_, rfl⟩
  have number : (Char.ofNat n).toNat = n := toNat_ofNat (.inl (by omega))
  rw [← hn]
  simp only [encodeChar, number]
  rw [if_neg (by omega), if_pos (by omega), ofNat_eq (b := a) (by omega),
    six_eq (b := b) low high (by omega)]

theorem encodeChar_three {a b c : UInt8} {d : Nat} (most : d < 0x10) (first : a.toNat = 0xE0 + d)
    (low : 0x80 ≤ b.toNat) (high : b.toNat ≤ 0xBF) (long : d = 0 → 0xA0 ≤ b.toNat)
    (valid : d = 0xD → b.toNat ≤ 0x9F) (lowLast : 0x80 ≤ c.toNat) (highLast : c.toNat ≤ 0xBF) :
    encodeChar (.ofNat ((d * 0x40 + b.toNat % 0x40) * 0x40 + c.toNat % 0x40)) = [a, b, c] := by
  obtain ⟨n, hn⟩ : ∃ n, n = (d * 0x40 + b.toNat % 0x40) * 0x40 + c.toNat % 0x40 := ⟨_, rfl⟩
  have number : (Char.ofNat n).toNat = n := toNat_ofNat (by
    rw [Nat.isValidChar]
    omega)
  rw [← hn]
  simp only [encodeChar, number]
  rw [if_neg (by omega), if_neg (by omega), if_pos (by omega), ofNat_eq (b := a) (by omega),
    six_eq (b := b) low high (by omega), six_eq (b := c) lowLast highLast (by omega)]

theorem encodeChar_four {a b c e : UInt8} {d : Nat} (most : d < 5) (first : a.toNat = 0xF0 + d)
    (low : 0x80 ≤ b.toNat) (high : b.toNat ≤ 0xBF) (long : d = 0 → 0x90 ≤ b.toNat)
    (valid : d = 4 → b.toNat ≤ 0x8F) (lowThird : 0x80 ≤ c.toNat) (highThird : c.toNat ≤ 0xBF)
    (lowLast : 0x80 ≤ e.toNat) (highLast : e.toNat ≤ 0xBF) :
    encodeChar
      (.ofNat (((d * 0x40 + b.toNat % 0x40) * 0x40 + c.toNat % 0x40) * 0x40 + e.toNat % 0x40)) =
      [a, b, c, e] := by
  obtain ⟨n, hn⟩ : ∃ n, n = ((d * 0x40 + b.toNat % 0x40) * 0x40 + c.toNat % 0x40) * 0x40 +
    e.toNat % 0x40 := ⟨_, rfl⟩
  have number : (Char.ofNat n).toNat = n := toNat_ofNat (.inr (by omega))
  rw [← hn]
  simp only [encodeChar, number]
  rw [if_neg (by omega), if_neg (by omega), if_neg (by omega), ofNat_eq (b := a) (by omega),
    six_eq (b := b) low high (by omega), six_eq (b := c) lowThird highThird (by omega),
    six_eq (b := e) lowLast highLast (by omega)]

/-! ### Texts -/

/-- Bytes without a broken part are those that are written of the characters in them. By strong
induction, because a character may take several bytes. -/
theorem encode_of_scan {bytes : List UInt8} {s : List Char} (h : scan none bytes = s.map some) :
    encode s = bytes := by
  induction length : bytes.length using Nat.strongRecOn generalizing bytes s with
  | ind n ih =>
    subst length
    cases bytes with
    | nil =>
      cases s with
      | nil => rfl
      | cons c s => cases h
    | cons a rest =>
      obtain ⟨small, begins⟩ | begins | ⟨d, least, most, first, begins⟩ | ⟨d, low, high, most,
        first, begins, bounds⟩ |
        ⟨d, low, high, most, first, begins, bounds⟩ := start_cases a
      · rw [scan, begins] at h
        cases s with
        | nil => cases h
        | cons c s =>
          obtain ⟨same, later⟩ := List.cons.inj h
          obtain rfl := Option.some.inj same
          have number : (Char.ofNat a.toNat).toNat = a.toNat := toNat_ofNat (.inl (by omega))
          have one : encodeChar (.ofNat a.toNat) = [a] := by
            simp only [encodeChar, number, if_pos small, UInt8.ofNat_toNat]
          rw [encode_cons, one, ih rest.length (by simp) later rfl]
          rfl
      · rw [scan, begins] at h
        cases s <;> cases h
      · rw [scan_lead begins] at h
        obtain ⟨b, rest, rfl, least', most', after⟩ := exists_next h
        obtain ⟨s, rfl, later⟩ := after
        rw [encode_cons, encodeChar_two least most first least' most',
          ih rest.length (by simp only [List.length_cons]; omega) later rfl]
        rfl
      · rw [scan_lead begins] at h
        obtain ⟨b, rest, rfl, least, most', after⟩ := exists_next h
        obtain ⟨c, rest, rfl, leastLast, mostLast, after⟩ := exists_next (by simpa using after)
        obtain ⟨s, rfl, later⟩ := after
        obtain ⟨hlow, hhigh, long, valid⟩ := bounds
        simp only at least most' leastLast mostLast
        rw [encode_cons, encodeChar_three most first (by omega) (by omega) (by omega)
          (by omega) leastLast mostLast,
          ih rest.length (by simp only [List.length_cons]; omega) later rfl]
        rfl
      · rw [scan_lead begins] at h
        obtain ⟨b, rest, rfl, least, most', after⟩ := exists_next h
        obtain ⟨c, rest, rfl, leastThird, mostThird, after⟩ := exists_next (by simpa using after)
        obtain ⟨e, rest, rfl, leastLast, mostLast, after⟩ := exists_next (by simpa using after)
        obtain ⟨s, rfl, later⟩ := after
        obtain ⟨hlow, hhigh, long, valid⟩ := bounds
        simp only at least most' leastThird mostThird leastLast mostLast
        rw [encode_cons, encodeChar_four most first (by omega) (by omega) (by omega) (by omega)
          leastThird mostThird leastLast mostLast,
          ih rest.length (by simp only [List.length_cons]; omega) later rfl]
        rfl

theorem map_some_of_mapM {l : List (Option Char)} {s : List Char} (h : l.mapM id = some s) :
    l = s.map some := by
  induction l generalizing s with
  | nil =>
    obtain rfl : [] = s := Option.some.inj h
    rfl
  | cons x l ih =>
    simp only [List.mapM_cons, Option.bind_eq_bind, Option.bind_eq_some_iff, id_eq, Option.pure_def,
      Option.some.injEq] at h
    obtain ⟨c, rfl, s, rest, rfl⟩ := h
    rw [ih rest, List.map_cons]

/-- Strict reading accepts the bytes that are written of a text, and no others. -/
theorem decode?_eq_some_iff {bytes : List UInt8} {s : List Char} :
    decode? bytes = some s ↔ bytes = encode s := by
  constructor
  · intro h
    exact (encode_of_scan (map_some_of_mapM h)).symm
  · rintro rfl
    exact decode?_encode s

end UserDirectory.Text.Utf8
