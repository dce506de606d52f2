import Mathlib.Data.List.TakeWhile
import UserDirectory.Proofs.Text.Letter
import UserDirectory.Search.Pattern

/-!
# Names that contain a filter

The pattern of a filter is matched by the names that contain the filter: a percent sign, an
underscore and a slash stand for themselves in it. Texts are compared character by character, with
ASCII letters in either case. The two noncharacters that are compared as U+FFFD are the only other
ones that match more than themselves. A text ends before its first U+0000; a pattern that ends there
has lost its last percent sign, and is matched by the names that end with the rest of the filter.
-/
namespace UserDirectory.Search.Pattern

open Text

/-- What is compared of a text, by what its characters are compared by. -/
def foldedText (s : String) : List Char := (upToNull s.toList).map folded

/-- The filter is a part of the name, as characters are compared, and the last part if U+0000 ends
it. -/
def Contains (filter name : String) : Prop :=
  foldedText filter <:+: foldedText name ∧
    ('\x00' ∈ filter.toList → foldedText filter <:+ foldedText name)

instance (filter name : String) : Decidable (Contains filter name) :=
  inferInstanceAs (Decidable (_ ∧ (_ → _)))

/-! ## Matching -/

theorem someEnd_eq_true_iff {passes : List Char → Bool} {s : List Char} :
    someEnd passes s = true ↔ ∃ a b, s = a ++ b ∧ passes b = true := by
  induction s with
  | nil =>
    constructor
    · intro passed
      exact ⟨[], [], rfl, passed⟩
    · rintro ⟨a, b, split, passed⟩
      obtain ⟨rfl, rfl⟩ := List.append_eq_nil_iff.1 split.symm
      exact passed
  | cons c rest ih =>
    rw [someEnd, Bool.or_eq_true, ih]
    constructor
    · rintro (whole | ⟨a, b, rfl, passed⟩)
      · exact ⟨[], c :: rest, rfl, whole⟩
      · exact ⟨c :: a, b, rfl, passed⟩
    · rintro ⟨a, b, split, passed⟩
      cases a with
      | nil => exact .inl (split ▸ passed)
      | cons x a =>
        obtain ⟨rfl, rfl⟩ := List.cons.inj split
        exact .inr ⟨a, b, rfl, passed⟩

theorem fits_anything (s : List Char) : fits [.anything] s = true :=
  someEnd_eq_true_iff.2 ⟨s, [], (List.append_nil s).symm, rfl⟩

/-- Characters are matched by as many that compare alike. -/
theorem fits_chars_iff {x s : List Char} {more : List Element} :
    fits (x.map .char ++ more) s = true ↔
      ∃ a b, s = a ++ b ∧ x.map folded = a.map folded ∧ fits more b = true := by
  induction x generalizing s with
  | nil =>
    constructor
    · intro fit
      exact ⟨[], s, rfl, rfl, fit⟩
    · rintro ⟨a, b, rfl, same, fit⟩
      obtain rfl := List.map_eq_nil_iff.1 same.symm
      exact fit
  | cons c x ih =>
    cases s with
    | nil => simp [fits]
    | cons d s =>
      simp only [List.map_cons, List.cons_append, fits, Bool.and_eq_true, beq_iff_eq, ih]
      constructor
      · rintro ⟨alike, a, b, rfl, rest, fit⟩
        exact ⟨d :: a, b, rfl, by rw [List.map_cons, alike, rest], fit⟩
      · rintro ⟨_ | ⟨e, a⟩, b, split, same, fit⟩
        · cases same
        · obtain ⟨rfl, rfl⟩ := List.cons.inj split
          obtain ⟨alike, rest⟩ := List.cons.inj same
          exact ⟨alike, a, b, rfl, rest, fit⟩

theorem fits_behind_iff {x s : List Char} {more : List Element} :
    fits (.anything :: (x.map .char ++ more)) s = true ↔
      ∃ a b c, s = a ++ (b ++ c) ∧ x.map folded = b.map folded ∧ fits more c = true := by
  rw [fits, someEnd_eq_true_iff]
  constructor
  · rintro ⟨a, _, rfl, fit⟩
    obtain ⟨b, c, rfl, same, rest⟩ := fits_chars_iff.1 fit
    exact ⟨a, b, c, rfl, same, rest⟩
  · rintro ⟨a, b, c, rfl, same, rest⟩
    exact ⟨a, b ++ c, rfl, fits_chars_iff.2 ⟨b, c, rfl, same, rest⟩⟩

theorem fits_around_iff {x s : List Char} :
    fits (.anything :: (x.map .char ++ [.anything])) s = true ↔ x.map folded <:+: s.map folded := by
  rw [fits_behind_iff]
  constructor
  · rintro ⟨a, b, c, rfl, same, -⟩
    exact ⟨a.map folded, c.map folded, by simp [same]⟩
  · rintro ⟨before, after, whole⟩
    obtain ⟨_, c, rfl, front, -⟩ := List.map_eq_append_iff.1 whole.symm
    obtain ⟨a, b, rfl, -, middle⟩ := List.map_eq_append_iff.1 front
    exact ⟨a, b, c, List.append_assoc .., middle.symm, fits_anything c⟩

theorem fits_end_iff {x s : List Char} :
    fits (.anything :: (x.map .char ++ [])) s = true ↔ x.map folded <:+ s.map folded := by
  rw [fits_behind_iff]
  constructor
  · rintro ⟨a, b, c, rfl, same, rest⟩
    obtain rfl := List.isEmpty_iff.1 rest
    exact ⟨a.map folded, by simp [same]⟩
  · rintro ⟨before, whole⟩
    obtain ⟨a, b, rfl, -, last⟩ := List.map_eq_append_iff.1 whole.symm
    exact ⟨a, b, [], by simp, last.symm, rfl⟩

/-! ## The pattern of a filter -/

/-- Does the character not stand for itself in a pattern? -/
def isSpecial (c : Char) : Bool := c == '/' || c == '%' || c == '_'

theorem isSpecial_toLower (c : Char) : isSpecial c.toLower = isSpecial c := by
  refine forall_char (p := fun c => isSpecial c.toLower = isSpecial c) (by decide +kernel)
    (fun c other => ?_) c
  rw [toLower_of_not_ascii other]

theorem toLower_of_isSpecial {c : Char} (h : isSpecial c = true) : c.toLower = c := by
  simp only [isSpecial, Bool.or_eq_true, beq_iff_eq] at h
  rcases h with (rfl | rfl) | rfl <;> rfl

theorem folded_of_isSpecial {c : Char} (h : isSpecial (folded c) = true) : folded c = c := by
  refine forall_char (p := fun c => isSpecial (folded c) = true → folded c = c)
    (by decide +kernel) ?_ c h
  intro c other special
  rw [folded] at special ⊢
  split at special
  · exact absurd special (by decide)
  · rw [if_neg ‹_›, toLower_of_not_ascii other]

/-- Such a character is matched by itself alone. -/
theorem folded_eq_iff {x c : Char} (special : isSpecial x = true) :
    folded c = folded x ↔ c = x := by
  have own : folded x = x := by
    simp only [isSpecial, Bool.or_eq_true, beq_iff_eq] at special
    rcases special with (rfl | rfl) | rfl <;> rfl
  constructor
  · intro alike
    rw [own] at alike
    rw [← alike, folded_of_isSpecial (alike ▸ special)]
  · rintro rfl
    rfl

theorem folded_toLower (c : Char) : folded c.toLower = folded c := by
  refine forall_char (p := fun c => folded c.toLower = folded c) (by decide +kernel)
    (fun c other => ?_) c
  rw [toLower_of_not_ascii other]

theorem map_folded_map_toLower (s : List Char) :
    (s.map Char.toLower).map folded = s.map folded := by
  rw [List.map_map]
  exact List.map_congr_left fun c _ => folded_toLower c

theorem escape_cons (c : Char) (s : List Char) :
    escape (c :: s) = (if isSpecial c = true then ['/', c] else [c]) ++ escape s := by
  simp [escape, isSpecial, or_assoc]

/-- Slashes may be put in before the letters are written small, or after. -/
theorem map_toLower_escape (s : List Char) :
    (escape s).map Char.toLower = escape (s.map Char.toLower) := by
  induction s with
  | nil => rfl
  | cons c s ih =>
    rw [List.map_cons, escape_cons, escape_cons, isSpecial_toLower, List.map_append, ih]
    by_cases special : isSpecial c = true
    · simp only [special, if_true, List.map_cons, List.map_nil, toLower_of_isSpecial special]
      rfl
    · simp only [special, Bool.false_eq_true, if_false, List.map_cons, List.map_nil]

theorem upToNull_cons (c : Char) (s : List Char) :
    upToNull (c :: s) = if c = '\x00' then [] else c :: upToNull s := by
  by_cases null : c = '\x00' <;> simp [upToNull, null]

/-- A text without U+0000 is read as a whole. -/
theorem upToNull_eq_self {s : List Char} (plain : '\x00' ∉ s) : upToNull s = s := by
  refine List.takeWhile_eq_self_iff.2 fun c hc => ?_
  simp only [bne_iff_ne]
  rintro rfl
  exact plain hc

theorem toLower_eq_null_iff {c : Char} : c.toLower = '\x00' ↔ c = '\x00' := by
  refine forall_char (p := fun c => c.toLower = '\x00' ↔ c = '\x00') (by decide +kernel)
    (fun c other => ?_) c
  rw [toLower_of_not_ascii other]

theorem upToNull_map_toLower (s : List Char) :
    upToNull (s.map Char.toLower) = (upToNull s).map Char.toLower := by
  induction s with
  | nil => rfl
  | cons c s ih =>
    rw [List.map_cons, upToNull_cons, upToNull_cons, ih]
    by_cases null : c = '\x00' <;> simp [toLower_eq_null_iff, null]

/-- U+0000 in a filter ends its pattern before the last percent sign. -/
theorem upToNull_escape_append (s rest : List Char) : upToNull (escape s ++ rest) =
    escape (upToNull s) ++ if '\x00' ∈ s then [] else upToNull rest := by
  induction s with
  | nil => rfl
  | cons c s ih =>
    rw [escape_cons, upToNull_cons]
    by_cases null : c = '\x00'
    · subst null
      simp [isSpecial, upToNull_cons, escape]
    · have later : '\x00' ∈ c :: s ↔ '\x00' ∈ s := by simp [Ne.symm null]
      by_cases special : isSpecial c = true <;>
        simp [special, null, later, upToNull_cons, escape_cons, ih]

theorem read_ofFilter (filter : String) : read (upToNull (ofFilter filter)) =
    .anything :: (((upToNull filter.toList).map Char.toLower).map .char ++
      if '\x00' ∈ filter.toList then [] else [.anything]) := by
  have null : '\x00' ∈ filter.toList.map Char.toLower ↔ '\x00' ∈ filter.toList := by
    simp [List.mem_map, toLower_eq_null_iff]
  rw [ofFilter, map_toLower_escape, List.cons_append, upToNull_cons, if_neg (by decide), read,
    upToNull_escape_append, read_escape_append, upToNull_map_toLower]
  simp only [null]
  split <;> rfl

/-- The names that match are those that contain the filter. -/
theorem holds_iff_contains {filter name : String} :
    holds filter name = true ↔ Contains filter name := by
  rw [holds, read_ofFilter, upToNull_map_toLower, Contains]
  split
  · rename_i ended
    rw [fits_end_iff, map_folded_map_toLower, map_folded_map_toLower]
    exact ⟨fun last => ⟨last.isInfix, fun _ => last⟩, fun contains => contains.2 ended⟩
  · rename_i plain
    rw [fits_around_iff, map_folded_map_toLower, map_folded_map_toLower]
    exact ⟨fun part => ⟨part, fun ended => absurd ended plain⟩, And.left⟩

theorem Contains.length_le {filter name : String} (h : Contains filter name)
    (plain : '\x00' ∉ filter.toList) : filter.length ≤ name.length := by
  have parts := h.1.length_le
  have cut : (upToNull name.toList).length ≤ name.length := by
    rw [← String.length_toList]
    exact (List.takeWhile_prefix _).length_le
  rw [foldedText, foldedText, List.length_map, List.length_map, upToNull_eq_self plain,
    String.length_toList] at parts
  exact Nat.le_trans parts cut

/-! ## What is compared exactly -/

/-- The text holds neither U+0000 nor one of the noncharacters that are compared as another
character. -/
def ComparesExactly (s : String) : Prop := ∀ c ∈ s.toList, c ≠ '\x00' ∧ c ≠ '\uFFFE' ∧ c ≠ '\uFFFF'

theorem ComparesExactly.no_null {s : String} (plain : ComparesExactly s) : '\x00' ∉ s.toList :=
  fun null => (plain _ null).1 rfl

theorem foldedText_eq {s : String} (plain : ComparesExactly s) :
    foldedText s = s.toList.map Char.toLower := by
  rw [foldedText, upToNull_eq_self plain.no_null]
  refine List.map_congr_left fun c hc => if_neg ?_
  rintro (first | last)
  · exact (plain c hc).2.1 first
  · exact (plain c hc).2.2 last

/-- Such texts are compared as they are, but for the case of ASCII letters. -/
theorem contains_iff {filter name : String} (hfilter : ComparesExactly filter)
    (hname : ComparesExactly name) :
    Contains filter name ↔ filter.toList.map Char.toLower <:+: name.toList.map Char.toLower := by
  rw [Contains, foldedText_eq hfilter, foldedText_eq hname]
  exact and_iff_left fun null => absurd null hfilter.no_null

/-! ## Filters that are too long -/

theorem length_le_length_encode (s : List Char) : s.length ≤ (Utf8.encode s).length := by
  induction s with
  | nil => exact Nat.le_refl 0
  | cons c s ih =>
    have one : 1 ≤ (Utf8.encodeChar c).length := by
      unfold Utf8.encodeChar
      grind
    rw [Utf8.encode_cons, List.length_append, List.length_cons]
    omega

theorem length_le_length_escape (s : List Char) : s.length ≤ (escape s).length := by
  induction s with
  | nil => exact Nat.le_refl 0
  | cons c s ih =>
    rw [escape_cons, List.length_append, List.length_cons]
    split <;> simp only [List.length_cons, List.length_nil] <;> omega

/-- A character is at least one byte, and the pattern holds two more. -/
theorem isTooLong_of_length {filter : String} (long : maxLength < filter.length + 2) :
    isTooLong filter = true := by
  have pattern : filter.length + 2 ≤ (ofFilter filter).length := by
    have escaped := length_le_length_escape filter.toList
    rw [String.length_toList] at escaped
    simp only [ofFilter, List.length_append, List.length_cons, List.length_map, List.length_nil]
    omega
  have bytes := length_le_length_encode (ofFilter filter)
  rw [isTooLong, decide_eq_true_iff]
  omega

end UserDirectory.Search.Pattern
