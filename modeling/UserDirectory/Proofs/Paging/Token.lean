import UserDirectory.Paging.Cursor
import UserDirectory.Proofs.Number.Numeral
import UserDirectory.Proofs.Text.Base64
import UserDirectory.Proofs.Text.Utf8
import UserDirectory.Proofs.Time.Calendar

/-!
# Tokens stand for cursors

The token of a cursor whose id is not empty is read as that cursor. Each layer undoes its own part:
base64 and UTF-8 give back the fields, the first two ampersands part them, and the numeral gives
back the instant.
-/
namespace UserDirectory.Paging.Cursor

open Text Number Time

/-! ## The layers -/

theorem token_toList (c : Cursor) : c.token.toList = Base64.encode (Utf8.encode c.fields) :=
  String.toList_ofList

theorem isUrlSafe_of_mem_token {c : Cursor} {x : Char} (h : x ∈ c.token.toList) :
    Base64.isUrlSafe x = true := by
  rw [token_toList] at h
  exact Base64.isUrlSafe_of_mem_encode _ _ h

/-- What is wrapped into a token is found in it again. -/
theorem unwrap?_encode (s : List Char) : unwrap? (Base64.encode (Utf8.encode s)) = some s := by
  have ascii : (Base64.encode (Utf8.encode s)).all isAscii = true := by
    rw [List.all_eq_true]
    exact fun x hx => Base64.isAscii_of_isUrlSafe (Base64.isUrlSafe_of_mem_encode _ x hx)
  have bytes : Base64.decode? (pad (Base64.encode (Utf8.encode s))) = some (Utf8.encode s) :=
    Base64.scan_encode_append _ (Nat.le_refl _)
  rw [unwrap?, if_pos ascii, bytes, Option.bind_some, Utf8.decode?_encode]

theorem unwrap?_token (c : Cursor) : unwrap? c.token.toList = some c.fields := by
  rw [token_toList, unwrap?_encode]

/-- A numeral holds no ampersand. -/
theorem ampersand_not_mem_intText (n : Int) : '&' ∉ intText n := by
  intro h
  rcases isDigit_or_eq_minus_of_mem_intText h with digit | minus
  · revert digit
    decide
  · revert minus
    decide

theorem cut?_intText_append (n : Int) (s : List Char) :
    cut? '&' (intText n ++ '&' :: s) = some (intText n, s) :=
  cut?_eq_some_iff.2 ⟨rfl, ampersand_not_mem_intText n⟩

theorem cut?_fields (c : Cursor) :
    cut? '&' c.fields = some (version.toList, intText c.createdAt.micros ++ '&' :: c.id.toList) :=
  cut?_eq_some_iff.2 ⟨by simp [fields], by decide⟩

/-- Instants have few digits. -/
theorem length_natText_micros_le (t : Instant) : (natText t.micros.natAbs).length ≤ maxDigits := by
  have first := t.first_le
  have last := t.le_last
  simp only [firstMicros, lastMicros] at first last
  have small : t.micros.natAbs < 1000000000000000000 := by omega
  have short : (natText t.micros.natAbs).length ≤ 18 :=
    (Nat.length_toDigits_le_iff (by decide) (by decide)).2 small
  exact Nat.le_trans short (by decide)

theorem readInstant?_intText (t : Instant) : readInstant? (intText t.micros) = some t := by
  have few := length_natText_micros_le t
  simp only [readInstant?, readPlain?_intText, List.length_map]
  rw [if_neg (Nat.not_lt.2 few), signed_value_natText, Instant.ofMicros?_micros]

theorem ofFields_intText_append (t : Instant) {id : String} (h : id ≠ "") :
    ofFields (intText t.micros ++ '&' :: id.toList) = .ok ⟨t, id⟩ := by
  have notNil : id.toList ≠ [] := by simpa using h
  simp only [ofFields, cut?_intText_append, if_neg notNil, readInstant?_intText,
    String.ofList_toList]

/-! ## Round trips -/

theorem token_ne_empty (c : Cursor) : c.token ≠ "" := by
  intro h
  have unwrapped := unwrap?_token c
  rw [h] at unwrapped
  have fieldsOfNil : unwrap? "".toList = some [] := unwrap?_encode []
  rw [fieldsOfNil] at unwrapped
  simp [fields] at unwrapped

theorem ofToken_token {c : Cursor} (h : c.id ≠ "") : ofToken c.token = .ok c := by
  rw [ofToken, if_neg (token_ne_empty c)]
  simp only [unwrap?_token, cut?_fields, Option.getD_some, if_true]
  exact ofFields_intText_append c.createdAt h

theorem intText_injective {m n : Int} (h : intText m = intText n) : m = n := by
  have hm := readPlain?_intText m
  rw [h, readPlain?_intText] at hm
  have parts := Prod.mk.inj (Option.some.inj hm)
  rw [← signed_value_natText m, ← signed_value_natText n, parts.1, parts.2]

theorem fields_injective {c d : Cursor} (h : c.fields = d.fields) : c = d := by
  have rest := cut?_fields c
  rw [h, cut?_fields, Option.some.injEq, Prod.mk.injEq] at rest
  have parts := cut?_intText_append c.createdAt.micros c.id.toList
  rw [← rest.2, cut?_intText_append, Option.some.injEq, Prod.mk.injEq] at parts
  obtain ⟨c₁, c₂⟩ := c
  obtain ⟨d₁, d₂⟩ := d
  obtain rfl : c₁ = d₁ := Instant.eq_of_micros_eq (intText_injective parts.1.symm)
  obtain rfl : c₂ = d₂ := String.toList_inj.1 parts.2.symm
  rfl

theorem token_injective {c d : Cursor} (h : c.token = d.token) : c = d := by
  have unwrapped := unwrap?_token c
  rw [h, unwrap?_token] at unwrapped
  exact (fields_injective (Option.some.inj unwrapped)).symm

theorem id_ne_empty_of_ofFields {s : List Char} {c : Cursor} (h : ofFields s = .ok c) :
    c.id ≠ "" := by
  unfold ofFields at h
  split at h
  · cases h
  · rename_i time id _
    split at h
    · cases h
    · rename_i notNil
      split at h
      · cases h
      · cases h
        simpa using notNil

/-- No token is read as a cursor with an empty id. -/
theorem id_ne_empty_of_ofToken {s : String} {c : Cursor} (h : ofToken s = .ok c) : c.id ≠ "" := by
  unfold ofToken at h
  split at h
  · cases h
  · split at h
    · cases h
    · simp only at h
      split at h
      · exact id_ne_empty_of_ofFields h
      · cases h

/-! ## Tokens of local times -/

theorem tokenOf?_eq_some {time : LocalTime} {t : Instant} (h : time.instant? = some t)
    (id : String) :
    tokenOf? time id = some (token ⟨t, id⟩) := by
  rw [tokenOf?, h, Option.map_some]

theorem exists_instant {time : LocalTime} (first : firstMicros ≤ time.micros)
    (last : time.micros ≤ lastMicros) :
    ∃ t, time.instant? = some t ∧ t.micros = time.micros :=
  ⟨⟨time.micros, first, last⟩, Instant.ofMicros?_eq_some_iff.2 rfl, rfl⟩

/-- Writing and reading tokens are inverse to each other. A local time within the years 1 to 9999
and an id that is not empty have a URL-safe token of version 1, and it is read as the same id and
the instant that shows the civil time where local time is as far ahead. Two tokens are the same only
for the same instant and id. A token that is read, in whatever form, is read as the cursor whose own
token is read as that cursor. -/
theorem tokens_read_back :
    (∀ (time : LocalTime) (id : String), time.civil.IsValid →
      firstMicros ≤ time.micros → time.micros ≤ lastMicros → id ≠ "" →
      ∃ token cursor, tokenOf? time id = some token ∧ ofToken token = .ok cursor ∧ cursor.id = id ∧
        cursor.createdAt.micros = time.micros ∧
        cursor.createdAt.civil.IsValid ∧ cursor.createdAt.civil.micros = time.micros ∧
        Civil.ofMicros (cursor.createdAt.micros + time.offset.getD 0) = time.civil ∧
        (∃ rest, unwrap? token.toList = some ('1' :: '&' :: rest)) ∧
        ∀ x ∈ token.toList, x.isAlphanum = true ∨ x = '-' ∨ x = '_') ∧
    (∀ (a b : LocalTime) (id id' : String), firstMicros ≤ a.micros → a.micros ≤ lastMicros →
      firstMicros ≤ b.micros → b.micros ≤ lastMicros →
      (tokenOf? a id = tokenOf? b id' ↔ a.micros = b.micros ∧ id = id')) ∧
    ∀ (s : String) (c : Cursor), ofToken s = .ok c → ofToken c.token = .ok c := by
  refine ⟨?_, ?_, ?_⟩
  · intro time id valid first last notEmpty
    obtain ⟨t, found, same⟩ := exists_instant first last
    refine ⟨token ⟨t, id⟩, ⟨t, id⟩, tokenOf?_eq_some found id, ofToken_token notEmpty, rfl, same,
      isValid_ofMicros t.micros, ?_, ?_, ⟨_, unwrap?_token ⟨t, id⟩⟩, ?_⟩
    · rw [← same]
      exact micros_ofMicros t.first_le
    · have shifted : t.micros + time.offset.getD 0 = time.civil.micros := by
        rw [same, LocalTime.micros]
        omega
      rw [shifted, ofMicros_micros valid]
    · intro x hx
      have safe := isUrlSafe_of_mem_token hx
      simpa only [Base64.isUrlSafe, Bool.or_eq_true, beq_iff_eq, or_assoc] using safe
  · intro a b id id' firstA lastA firstB lastB
    obtain ⟨s, foundA, sameA⟩ := exists_instant firstA lastA
    obtain ⟨t, foundB, sameB⟩ := exists_instant firstB lastB
    rw [tokenOf?_eq_some foundA, tokenOf?_eq_some foundB, ← sameA, ← sameB]
    constructor
    · intro h
      cases token_injective (Option.some.inj h)
      exact ⟨rfl, rfl⟩
    · rintro ⟨instants, rfl⟩
      rw [Instant.eq_of_micros_eq instants]
  · intro s c h
    exact ofToken_token (id_ne_empty_of_ofToken h)

/-- The first instant at an offset of five and a half hours and an id with marks of several kinds;
two times that are one instant; and a token with the numeral `-0`. -/
theorem tokens_read_back_first :
    let ahead : LocalTime := ⟨⟨⟨1, 1, 1⟩, 5, 30, 0, 0⟩, some 19800000000⟩
    let universal : LocalTime := ⟨⟨⟨1, 1, 1⟩, 0, 0, 0, 0⟩, none⟩
    (∃ token cursor, tokenOf? ahead "a&=\x00𝄞" = some token ∧ ofToken token = .ok cursor ∧
      cursor.id = "a&=\x00𝄞" ∧ cursor.createdAt.micros = firstMicros) ∧
    tokenOf? ahead "" = tokenOf? universal "" ∧
    ∃ c, ofToken "MSYtMCZ4" = .ok c ∧ ofToken c.token = .ok c := by
  obtain ⟨wraps, injective, again⟩ := tokens_read_back
  refine ⟨?_, ?_, ⟨⟨0, by decide, by decide⟩, "x"⟩, by rfl, again "MSYtMCZ4" _ (by rfl)⟩
  · obtain ⟨token, cursor, written, read, id, micros, -⟩ :=
      wraps ⟨⟨⟨1, 1, 1⟩, 5, 30, 0, 0⟩, some 19800000000⟩
      "a&=\x00𝄞"
        ⟨⟨by decide, by decide, by decide, by decide⟩, by decide, by decide, by decide, by decide⟩
      (by decide) (by decide) (by decide)
    exact ⟨token, cursor, written, read, id, micros⟩
  · exact (injective ⟨⟨⟨1, 1, 1⟩, 5, 30, 0, 0⟩, some 19800000000⟩
      ⟨⟨⟨1, 1, 1⟩, 0, 0, 0, 0⟩, none⟩ "" ""
      (by decide) (by decide) (by decide) (by decide)).2 ⟨by decide, rfl⟩

end UserDirectory.Paging.Cursor
