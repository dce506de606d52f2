import UserDirectory.Proofs.Paging.Token

/-!
# Other spellings of tokens

A token is read the same if some of its hyphens are written as plus signs and some of its
underscores as slashes, with any number of padding marks behind it. The marks that are there count
towards the length that is filled up, so there are always enough of them in the end. A text of
digits alone that leaves one over is no token.
-/
namespace UserDirectory.Paging.Cursor

open Text

/-! ## Filling up -/

/-- The marks that a length calls for, those that are there and the ones that fill up the two. -/
theorem missingMarks_le (length marks : Nat) :
    Base64.missingMarks length ≤ marks + Base64.missingMarks (length + marks) := by
  unfold Base64.missingMarks
  omega

theorem pad_marks (s : List Char) (marks : Nat) :
    pad (s ++ List.replicate marks '=') =
      s ++ List.replicate (marks + Base64.missingMarks (s.length + marks)) '=' := by
  rw [pad, List.length_append, List.length_replicate, List.append_assoc, ← List.replicate_add,
    Base64.missingMarks]

/-! ## Spellings of a token -/

variable {c : Cursor} {u : List Char}

theorem isAscii_of_respelled (spelled : List.Forall₂ Base64.Respells c.token.toList u)
    (marks : Nat) :
    (u ++ List.replicate marks '=').all isAscii = true := by
  rw [List.all_append, Bool.and_eq_true, List.all_eq_true, List.all_eq_true]
  constructor
  · intro x hx
    have safe : ∀ y ∈ c.token.toList, Base64.isUrlSafe y = true :=
      fun y hy => isUrlSafe_of_mem_token hy
    exact Base64.isAscii_of_isDigitChar (Base64.isDigitChar_of_mem_respelled spelled safe x hx)
  · intro x hx
    rw [List.eq_of_mem_replicate hx]
    decide

theorem unwrap?_respelled (spelled : List.Forall₂ Base64.Respells c.token.toList u) (marks : Nat) :
    unwrap? (u ++ List.replicate marks '=') = some c.fields := by
  have bytes : Base64.decode? (pad (u ++ List.replicate marks '=')) =
      some (Utf8.encode c.fields) := by
    rw [pad_marks, Base64.decode?, Base64.scan_respelled spelled, token_toList]
    refine Base64.scan_encode_append _ ?_
    rw [← spelled.length_eq, token_toList]
    exact missingMarks_le _ marks
  rw [unwrap?, if_pos (isAscii_of_respelled spelled marks), bytes, Option.bind_some,
    Utf8.decode?_encode]

theorem ofToken_respelled (named : c.id ≠ "")
    (spelled : List.Forall₂ Base64.Respells c.token.toList u) (marks : Nat) :
    ofToken (String.ofList (u ++ List.replicate marks '=')) = .ok c := by
  have nonempty : u ≠ [] := by
    rintro rfl
    have nothing := spelled.length_eq
    exact token_ne_empty c (by simpa using nothing)
  rw [ofToken, if_neg (by simp [nonempty])]
  simp only [String.toList_ofList, unwrap?_respelled spelled marks, cut?_fields,
    Option.getD_some, if_true]
  exact ofFields_intText_append c.createdAt named

/-! ## Texts that are no token -/

theorem unwrap?_of_one_over {s : List Char} (digits : ∀ x ∈ s, Base64.isDigitChar x = true)
    (one : s.length % 4 = 1) :
    unwrap? s = none := by
  have unread : Base64.decode? (pad s) = none :=
    Base64.scan_eq_none digits (by simpa [Base64.Group.digits] using one) 0 _
  rw [unwrap?, unread]
  simp

/-- The token of a cursor with an id is read as the cursor in every spelling: with any of its
hyphens as plus signs and any of its underscores as slashes, and with any number of padding marks
behind it. A text that holds only digits of the two alphabets, one more than a multiple of four, is
refused. -/
theorem tokens_survive_respelling :
    (∀ (c : Cursor) (u : List Char) (marks : Nat), c.id ≠ "" →
      List.Forall₂ Base64.Respells c.token.toList u →
      ofToken c.token = .ok c ∧ ofToken (String.ofList (u ++ List.replicate marks '=')) = .ok c) ∧
    ∀ s : String, (∀ x ∈ s.toList, Base64.isDigitChar x = true) → s.length % 4 = 1 →
      ofToken s = .error .notBase64 := by
  refine ⟨fun c u marks named spelled =>
    ⟨ofToken_token named, ofToken_respelled named spelled marks⟩, ?_⟩
  intro s digits one
  have nonempty : s ≠ "" := by
    rintro rfl
    cases one
  rw [ofToken, if_neg nonempty, unwrap?_of_one_over digits (String.length_toList ▸ one)]

/-- A token with a hyphen and an underscore in standard spelling under one mark more than is needed,
and a text of five digits. -/
theorem tokens_survive_respelling_standard :
    let c : Cursor := ⟨⟨0, by decide, by decide⟩, "a?aa~b"⟩
    c.token = "MSYwJmE_YWF-Yg" ∧ ofToken "MSYwJmE/YWF+Yg===" = .ok c ∧
      ofToken "MSYw/" = .error .notBase64 := by
  intro c
  have written : c.token = "MSYwJmE_YWF-Yg" := by decide +kernel
  obtain ⟨reads, refuses⟩ := tokens_survive_respelling
  have spelled : List.Forall₂ Base64.Respells c.token.toList "MSYwJmE/YWF+Yg".toList := by
    rw [written]
    decide +kernel
  have digits : ∀ x ∈ "MSYw/".toList, Base64.isDigitChar x = true :=
    List.all_eq_true.1 (by decide +kernel)
  exact ⟨written, (reads c _ 3 (by decide) spelled).2, refuses "MSYw/" digits (by decide +kernel)⟩

end UserDirectory.Paging.Cursor
