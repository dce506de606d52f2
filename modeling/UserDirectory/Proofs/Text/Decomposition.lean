import Mathlib.Data.List.Chain
import Mathlib.Data.List.Nodup
import UserDirectory.Text.NormalForm

/-!
# Taking characters apart

What a code point is taken apart to has no parts itself. A composite is taken apart to what its
first part is taken apart to, and its second part. The tables bear this out: no second part has
parts, and first parts are taken at most three times in a row.
-/
namespace UserDirectory.Text

variable {m n : Nat}

/-! ## Sets of code points -/

/-- A set of code points as the bits of a number. -/
def bits (s : List Nat) : Nat := s.foldr (fun n rest => rest ||| 1 <<< n) 0

theorem testBit_bits {s : List Nat} : (bits s).testBit n = true ↔ n ∈ s := by
  induction s with
  | nil => simp [bits]
  | cons m rest ih =>
    have single : (1 <<< m).testBit n = true ↔ n = m := by
      rw [Nat.one_shiftLeft, Nat.testBit_two_pow, decide_eq_true_iff, eq_comm]
    rw [bits, List.foldr_cons, ← bits, Nat.testBit_or, Bool.or_eq_true, ih, single,
      List.mem_cons, or_comm]

/-! ## Parts -/

/-- The code points that have parts, each with the first of them. -/
def firstParts : List (Nat × Nat) :=
  (compositions ++ lostComposites).map (fun c => (c.composite, c.first)) ++
    stands.flatMap fun run => run.2.zipIdx.map fun p => (run.1 + p.2, p.1)

/-- There are one or two parts, the second of them that of a composite. -/
theorem exists_of_parts? {parts : List Nat} (h : parts? n = some parts) :
    ∃ first rest, parts = first :: rest ∧ (n, first) ∈ firstParts ∧
      ∀ m ∈ rest, ∃ c ∈ compositions ++ lostComposites, m = c.second := by
  unfold parts? at h
  split at h
  · rename_i c found
    obtain rfl := Option.some.inj h
    obtain ⟨member, rfl⟩ : c ∈ compositions ++ lostComposites ∧ c.composite = n := by
      rcases Option.or_eq_some_iff.1 found with composed | ⟨-, lost⟩
      · exact ⟨List.mem_append_left _ (List.mem_of_find?_eq_some composed),
          by simpa using List.find?_some composed⟩
      · exact ⟨List.mem_append_right _ (List.mem_of_find?_eq_some lost),
          by simpa using List.find?_some lost⟩
    refine ⟨c.first, [c.second], rfl, List.mem_append_left _ (List.mem_map.2 ⟨c, member, rfl⟩), ?_⟩
    intro m hm
    exact ⟨c, member, List.mem_singleton.1 hm⟩
  · split at h
    · rename_i run found
      obtain ⟨first, stood, rfl⟩ := Option.map_eq_some_iff.1 h
      have reached := List.find?_some found
      simp only [Bool.and_eq_true, decide_eq_true_eq] at reached
      have position : (n, first) = (run.1 + (n - run.1), first) := by
        rw [Nat.add_sub_cancel' reached.1]
      refine ⟨first, [], rfl, List.mem_append_right _ ?_, nofun⟩
      exact List.mem_flatMap.2 ⟨run, List.mem_of_find?_eq_some found,
        List.mem_map.2 ⟨(first, n - run.1), List.mk_mem_zipIdx_iff_getElem?.2 stood, position.symm⟩⟩
    · cases h

/-! ## First parts in a row -/

/-- The code points of which first parts are taken more than so many times in a row. -/
def deep : Nat → List Nat
  | 0 => firstParts.map (·.1)
  | d + 1 =>
    let deeper := bits (deep d)
    (firstParts.filter fun p => deeper.testBit p.2).map (·.1)

theorem parts?_eq_none (h : n ∉ deep 0) : parts? n = none := by
  cases parts : parts? n with
  | none => rfl
  | some parts =>
    obtain ⟨first, _, -, member, -⟩ := exists_of_parts? ‹_›
    exact absurd (List.mem_map.2 ⟨_, member, rfl⟩) h

theorem not_mem_deep {d first : Nat} (h : n ∉ deep (d + 1)) (member : (n, first) ∈ firstParts) :
    first ∉ deep d := by
  intro deeper
  exact h (List.mem_map.2 ⟨_, List.mem_filter.2 ⟨member, testBit_bits.2 deeper⟩, rfl⟩)

theorem not_mem_deep_three (n : Nat) : n ∉ deep 3 := by
  have none : deep 3 = [] := by decide +kernel
  rw [none]
  exact List.not_mem_nil

theorem takeApart_eq_self (partless : parts? n = none) (depth : Nat) : takeApart depth n = [n] := by
  cases depth with
  | zero => rfl
  | succ depth => rw [takeApart, partless]

/-- Beyond the depth of a code point nothing more is taken apart. -/
theorem takeApart_add {d : Nat} (shallow : n ∉ deep d) (e : Nat) :
    takeApart (d + e) n = takeApart d n := by
  induction d generalizing n with
  | zero =>
    rw [takeApart_eq_self (parts?_eq_none shallow), takeApart_eq_self (parts?_eq_none shallow)]
  | succ d ih =>
    rw [Nat.add_right_comm, takeApart, takeApart]
    cases given : parts? n with
    | none => rfl
    | some parts =>
      obtain ⟨first, rest, rfl, member, -⟩ := exists_of_parts? given
      simp only [ih (not_mem_deep shallow member)]

/-! ## The tables -/

/-- A code point of a character that is no syllable of Hangul, outside the gap behind the
syllables. -/
def isOther (n : Nat) : Bool := n < syllableBase || (0xE000 ≤ n && n < 0x110000)

theorem isOther_iff : isOther n = true ↔ n < syllableBase ∨ 0xE000 ≤ n ∧ n < 0x110000 := by
  simp [isOther]

theorem isValidChar_of_isOther (h : isOther n = true) : n.isValidChar := by
  have bounds := isOther_iff.1 h
  simp only [syllableBase] at bounds
  simp only [Nat.isValidChar]
  omega

theorem syllableLetters?_of_isOther (h : isOther n = true) : syllableLetters? n = none := by
  have bounds := isOther_iff.1 h
  simp only [syllableBase] at bounds
  rw [syllableLetters?, if_neg (by simp only [syllableBase]; omega)]

theorem isOther_of_mem_firstParts {p : Nat × Nat} (h : p ∈ firstParts) :
    0xC0 ≤ p.1 ∧ isOther p.1 = true ∧ isOther p.2 = true := by
  have table : ∀ p ∈ firstParts, 0xC0 ≤ p.1 ∧ isOther p.1 = true ∧ isOther p.2 = true := by
    decide +kernel
  exact table p h

theorem isOther_of_composition {c : Composition} (h : c ∈ compositions) :
    isOther c.composite = true ∧ isOther c.first = true :=
  (isOther_of_mem_firstParts (p := (c.composite, c.first)) (List.mem_append_left _
    (List.mem_map.2 ⟨c, List.mem_append_left _ h, rfl⟩))).2

/-- A second part has no parts. -/
theorem second_not_mem_deep {c : Composition} (h : c ∈ compositions ++ lostComposites) :
    c.second ∉ deep 0 ∧ isOther c.second = true := by
  have table : ((compositions ++ lostComposites).all fun c =>
      !(bits (deep 0)).testBit c.second && isOther c.second) = true := by decide +kernel
  have entry := List.all_eq_true.1 table c h
  simp only [Bool.and_eq_true, Bool.not_eq_true'] at entry
  refine ⟨fun member => ?_, entry.2⟩
  rw [testBit_bits.2 member] at entry
  cases entry.1

theorem composites_nodup : (compositions.map (·.composite)).Nodup := by
  have neighbours : (compositions.map (·.composite)).IsChain (· < ·) := by decide +kernel
  exact (List.isChain_iff_pairwise.1 neighbours).imp Nat.ne_of_lt

/-- A composite has the parts that it is put together from. -/
theorem parts?_composite {c : Composition} (h : c ∈ compositions) :
    parts? c.composite = some [c.first, c.second] := by
  obtain ⟨d, found⟩ : ∃ d, compositions.find? (·.composite == c.composite) = some d :=
    Option.isSome_iff_exists.1 (List.find?_isSome.2 ⟨c, h, beq_self_eq_true _⟩)
  have same : d.composite = c.composite := by simpa using List.find?_some found
  obtain rfl := List.inj_on_of_nodup_map composites_nodup (List.mem_of_find?_eq_some found) h same
  simp only [parts?, found, Option.some_or]

/-! ## Taking apart -/

theorem decompose_eq (n : Nat) : decompose n = (syllableLetters? n).getD (takeApart 3 n) := by
  unfold decompose
  split
  · rename_i low
    have partless : n ∉ deep 0 := by
      intro member
      obtain ⟨p, hp, rfl⟩ := List.mem_map.1 member
      have := (isOther_of_mem_firstParts hp).1
      omega
    have other : isOther n = true := isOther_iff.2 (.inl (by simp only [syllableBase]; omega))
    rw [syllableLetters?_of_isOther other, takeApart_eq_self (parts?_eq_none partless),
      Option.getD_none]
  · rfl

theorem decompose_of_isOther (h : isOther n = true) : decompose n = takeApart 3 n := by
  rw [decompose_eq, syllableLetters?_of_isOther h, Option.getD_none]

/-- A character that cannot be taken apart. -/
structure Whole (n : Nat) : Prop where
  partless : parts? n = none
  letterless : syllableLetters? n = none
  valid : n.isValidChar

theorem Whole.decompose_eq_self (h : Whole n) : decompose n = [n] := by
  rw [decompose_eq, h.letterless, takeApart_eq_self h.partless, Option.getD_none]

theorem whole_of_isOther (partless : n ∉ deep 0) (other : isOther n = true) : Whole n :=
  ⟨parts?_eq_none partless, syllableLetters?_of_isOther other, isValidChar_of_isOther other⟩

theorem whole_of_mem_takeApart {d : Nat} (shallow : n ∉ deep d)
    (letterless : syllableLetters? n = none) (valid : n.isValidChar)
    (hm : m ∈ takeApart d n) : Whole m := by
  induction d generalizing n with
  | zero =>
    obtain rfl := List.mem_singleton.1 hm
    exact ⟨parts?_eq_none shallow, letterless, valid⟩
  | succ d ih =>
    rw [takeApart] at hm
    cases given : parts? n with
    | none =>
      rw [given] at hm
      obtain rfl := List.mem_singleton.1 hm
      exact ⟨given, letterless, valid⟩
    | some parts =>
      obtain ⟨first, rest, rfl, member, seconds⟩ := exists_of_parts? given
      have other := (isOther_of_mem_firstParts member).2.2
      rw [given] at hm
      rcases List.mem_append.1 hm with fromFirst | inRest
      · exact ih (not_mem_deep shallow member) (syllableLetters?_of_isOther other)
          (isValidChar_of_isOther other) fromFirst
      · obtain ⟨c, hc, rfl⟩ := seconds m inRest
        exact whole_of_isOther (second_not_mem_deep hc).1 (second_not_mem_deep hc).2

/-! ## Syllables -/

/-- The letters that syllables are put together from. -/
theorem whole_of_letter (first : leadBase ≤ n) (last : n < leadBase + 0x100) : Whole n := by
  have letters : ((List.range 0x100).all fun i => !(bits (deep 0)).testBit (leadBase + i)) =
      true := by
    decide +kernel
  obtain ⟨i, rfl⟩ := Nat.exists_eq_add_of_le first
  have entry := List.all_eq_true.1 letters i (List.mem_range.2 (Nat.add_lt_add_iff_left.1 last))
  refine whole_of_isOther (fun member => ?_) (isOther_iff.2 (.inl (Nat.lt_trans last (by decide))))
  rw [testBit_bits.2 member] at entry
  cases entry

theorem syllableLetters?_eq_some_iff {l : List Nat} : syllableLetters? n = some l ↔
    ∃ i, i < 11172 ∧ n = syllableBase + i ∧
      l = [leadBase + i / 588, vowelBase + i % 588 / 28] ++ if i % 28 = 0 then []
        else [trailBase + i % 28] := by
  unfold syllableLetters?
  constructor
  · intro h
    split at h
    · rename_i bounds
      obtain ⟨i, rfl⟩ := Nat.exists_eq_add_of_le bounds.1
      refine ⟨i, Nat.add_lt_add_iff_left.1 bounds.2, rfl, ?_⟩
      rw [Nat.add_sub_cancel_left] at h
      exact (Option.some.inj h).symm
    · cases h
  · rintro ⟨i, small, rfl, rfl⟩
    rw [if_pos ⟨Nat.le_add_right _ i, Nat.add_lt_add_left small _⟩, Nat.add_sub_cancel_left]

theorem whole_of_mem_syllableLetters {l : List Nat} (h : syllableLetters? n = some l) (hm : m ∈ l) :
    Whole m := by
  obtain ⟨i, small, rfl, rfl⟩ := syllableLetters?_eq_some_iff.1 h
  have spread : leadBase ≤ m ∧ m < leadBase + 0x100 := by
    simp only [leadBase, vowelBase, trailBase] at hm ⊢
    rcases List.mem_append.1 hm with inPair | trailing
    · rcases List.mem_pair.1 inPair with rfl | rfl <;> omega
    · split at trailing
      · cases trailing
      · obtain rfl := List.mem_singleton.1 trailing
        omega
  exact whole_of_letter spread.1 spread.2

theorem isValidChar_of_syllableLetters {l : List Nat} (h : syllableLetters? n = some l) :
    n.isValidChar := by
  obtain ⟨i, small, rfl, -⟩ := syllableLetters?_eq_some_iff.1 h
  simp only [Nat.isValidChar, syllableBase]
  omega

/-- A syllable has the letters that it is put together from. -/
theorem syllableLetters?_syllable? {first second whole : Nat}
    (h : syllable? first second = some whole) :
    syllableLetters? whole = some (decompose first ++ [second]) := by
  unfold syllable? at h
  split at h
  · rename_i pair
    obtain rfl := Option.some.inj h
    obtain ⟨lead, rfl⟩ := Nat.exists_eq_add_of_le pair.1
    obtain ⟨vowel, rfl⟩ := Nat.exists_eq_add_of_le pair.2.2.1
    have leads : lead < 19 := Nat.add_lt_add_iff_left.1 pair.2.1
    have vowels : vowel < 21 := Nat.add_lt_add_iff_left.1 pair.2.2.2
    have letter : Whole (leadBase + lead) := whole_of_letter (Nat.le_add_right _ lead) (by omega)
    rw [Nat.add_sub_cancel_left, Nat.add_sub_cancel_left, letter.decompose_eq_self]
    refine syllableLetters?_eq_some_iff.2 ⟨_, by omega, rfl, ?_⟩
    rw [show (lead * 21 + vowel) * 28 / 588 = lead by omega,
      show (lead * 21 + vowel) * 28 % 588 / 28 = vowel by omega, if_pos (by omega), List.append_nil]
    rfl
  · split at h
    · rename_i triple
      obtain rfl := Option.some.inj h
      obtain ⟨i, rfl⟩ := Nat.exists_eq_add_of_le triple.1
      obtain ⟨trail, rfl⟩ := Nat.exists_eq_add_of_le (Nat.le_of_lt triple.2.2.2.1)
      have small : i < 11172 := Nat.add_lt_add_iff_left.1 triple.2.1
      have given : 0 < trail := Nat.lt_add_right_iff_pos.1 triple.2.2.2.1
      have trails : trail < 28 := Nat.add_lt_add_iff_left.1 triple.2.2.2.2
      have ended := triple.2.2.1
      rw [Nat.add_sub_cancel_left] at ended
      have pair : syllableLetters? (syllableBase + i) =
          some [leadBase + i / 588, vowelBase + i % 588 / 28] :=
        syllableLetters?_eq_some_iff.2 ⟨i, small, rfl, by rw [if_pos ended, List.append_nil]⟩
      rw [Nat.add_sub_cancel_left, decompose_eq, pair, Option.getD_some, Nat.add_assoc]
      refine syllableLetters?_eq_some_iff.2 ⟨_, by omega, rfl, ?_⟩
      rw [show (i + trail) / 588 = i / 588 by omega,
        show (i + trail) % 588 / 28 = i % 588 / 28 by omega,
        show (i + trail) % 28 = trail by omega, if_neg (by omega)]
    · cases h

/-! ## What characters are taken apart to -/

/-- Nothing that a character is taken apart to can be taken apart again. -/
theorem whole_of_mem_decompose (valid : n.isValidChar) (hm : m ∈ decompose n) : Whole m := by
  rw [decompose_eq] at hm
  cases letters : syllableLetters? n with
  | some l =>
    rw [letters] at hm
    exact whole_of_mem_syllableLetters letters hm
  | none =>
    rw [letters] at hm
    exact whole_of_mem_takeApart (not_mem_deep_three n) letters valid hm

/-- A composite is taken apart to what its first part is taken apart to, and its second part. -/
theorem decompose_composite? {first second whole : Nat} (h : composite? first second = some whole) :
    decompose whole = decompose first ++ [second] := by
  unfold composite? at h
  split at h
  · obtain rfl := Option.some.inj h
    rw [decompose_eq, syllableLetters?_syllable? ‹_›, Option.getD_some]
  · obtain ⟨c, found, rfl⟩ := Option.map_eq_some_iff.1 h
    have member := List.mem_of_find?_eq_some found
    obtain ⟨rfl, rfl⟩ : c.first = first ∧ c.second = second := by simpa using List.find?_some found
    have others := isOther_of_composition member
    have deeper : takeApart 3 c.composite = takeApart 4 c.composite :=
      (takeApart_add (not_mem_deep_three _) 1).symm
    rw [decompose_of_isOther others.1, decompose_of_isOther others.2, deeper, takeApart,
      parts?_composite member]

theorem isValidChar_composite? {first second whole : Nat}
    (h : composite? first second = some whole) :
    whole.isValidChar := by
  unfold composite? at h
  split at h
  · obtain rfl := Option.some.inj h
    exact isValidChar_of_syllableLetters (syllableLetters?_syllable? ‹_›)
  · obtain ⟨c, found, rfl⟩ := Option.map_eq_some_iff.1 h
    exact isValidChar_of_isOther (isOther_of_composition (List.mem_of_find?_eq_some found)).1

end UserDirectory.Text
