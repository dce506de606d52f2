import UserDirectory.Proofs.Directory.Disguise
import UserDirectory.Proofs.Directory.Found
import UserDirectory.Proofs.Number.Quotient
import UserDirectory.Proofs.Search.Similarity

/-!
# Searches in any letter case

Trigrams are taken of small letters, and small letters stay as they are. So neither a term nor what
is stored is told from its small form, and a text with a word is at no distance from its own: a
number of trigrams over itself is one.
-/
namespace UserDirectory

open Store Text

namespace Search

/-! ## Small letters -/

@[simp] theorem trigrams_lower (s : String) : trigrams (lower s) = trigrams s := by
  rw [trigrams, lower_lower, trigrams]

/-! ## Texts with the same trigrams -/

theorem Trigram.key_lt (t : Trigram) : t.key < 2 ^ 63 := by
  have first := toNat_lt t.first
  have second := toNat_lt t.second
  have third := toNat_lt t.third
  unfold key
  omega

/-- There are not more trigrams than codes of three characters. -/
theorem card_trigramSet_lt (s : String) : (trigramSet s).card < 2 ^ 64 := by
  have codes : (trigramSet s).card ≤ (Finset.range (2 ^ 63)).card :=
    Finset.card_le_card_of_injOn Trigram.key
      (fun t _ => Finset.mem_coe.2 (Finset.mem_range.2 t.key_lt))
      fun _ _ _ _ same => Trigram.key_injective same
  rw [Finset.card_range] at codes
  exact Nat.lt_of_le_of_lt codes (by decide)

/-- Texts with the same trigrams are at no distance, also where quotient and difference are
rounded. -/
theorem distance_eq_zero {a b : String} (same : trigramSet a = trigramSet b)
    (some : (trigramSet a).Nonempty) :
    distance a b = 0.0 := by
  have whole : (similarity a b).toFloat = 1.0 := by
    rcases similarity_cases a b with ⟨none, -⟩ | ⟨pos, ratio⟩
    · rw [← same, Finset.union_self] at none
      exact absurd none some.ne_empty
    · simp only [ratio, Ratio.toFloat, ← same, Finset.inter_self, Finset.union_self]
      exact Number.toFloat_div_self some.card_pos.ne' (card_trigramSet_lt a)
  rw [distance, whole]
  decide

end Search

/-! ## Stored texts -/

/-- The row with its name and its address in small letters. -/
def Store.Row.lowered (row : Row) : Row :=
  { row with name := lower row.name, email := row.email.map lower }

def FoundUser.lowered (u : FoundUser) : FoundUser :=
  { u with name := lower u.name, email := u.email.map lower }

theorem Store.Row.haystack_lowered (row : Row) : row.lowered.haystack = lower row.haystack := by
  rw [Row.haystack, Row.haystack, lower_append_blank]
  cases address : row.email with
  | none =>
    simp only [lowered, address, Option.map_none, Option.getD_none]
    rfl
  | some email => simp only [lowered, address, Option.map_some, Option.getD_some]

namespace Directory

open Search Time

theorem disguise_lowered : Disguise Row.lowered FoundUser.lowered where
  id _ := rfl
  userType _ := rfl
  trigrams row := by rw [Row.haystack_lowered, trigrams_lower]
  found _ _ _ := rfl

theorem search_lower (term : String) : search (lower term) = search term := by
  have alike : nearest (lower term) = nearest term := by
    funext t
    simp only [nearest, similarity_congr rfl (trigrams_lower term)]
  funext s
  by_cases unknown : ∃ name, s.dialect = .other name
  · obtain ⟨name, other⟩ := unknown
    rw [search_of_other other, search_of_other other]
  · rw [search_of_known (not_exists.1 unknown), search_of_known (not_exists.1 unknown),
      found, found, alike]

/-- A search does not tell a term or what is stored from its small form: trigrams are the same ones,
so distances are, and the same users are found in the same order. A text with a letter or a number
is at no distance from its small form. -/
theorem search_ignores_letter_case :
    (∀ a, trigrams (lower a) = trigrams a) ∧
    (∀ a b, distance (lower a) b = distance a b ∧ distance a (lower b) = distance a b) ∧
    (∀ a, (∃ c ∈ (lower a).toList, isAlphanumeric c = true) →
      distance a (lower a) = 0.0 ∧ exactDistance a (lower a) = 0) ∧
    (∀ term, search (lower term) = search term) ∧
    ∀ (term : String) (s s' : Session), Disguise.Sessions Row.lowered s s' →
      (search term s').outcome = (search term s).outcome.map (List.map FoundUser.lowered) := by
  refine ⟨trigrams_lower, fun a b => ?_, fun a word => ?_, search_lower,
    fun term s s' sessions => ?_⟩
  · rw [distance, distance, distance, similarity_congr (trigrams_lower a) rfl,
      similarity_congr rfl (trigrams_lower b)]
    exact ⟨rfl, rfl⟩
  · have same : trigramSet a = trigramSet (lower a) := trigrams_eq_iff.1 (trigrams_lower a).symm
    have some := trigramSet_nonempty_iff.2 word
    refine ⟨distance_eq_zero same some, ?_⟩
    rw [exactDistance, overlap_eq_one_iff.2 ⟨same, some⟩, sub_self]
  · exact disguise_lowered.search rfl sessions

/-- A capital with a dot, whose small form is two characters, and capital sigmas, of which the last
has a small form of its own. -/
theorem search_ignores_letter_case_odysseus :
    let first : Instant := ⟨0, by decide, by decide⟩
    let user : User :=
      ⟨⟨.oidc, "o", by decide⟩, "İ ΟΔΥΣΣΕΥΣ", none, .human, .createEndpoint, first, none⟩
    let s : Session := { committed := some [User.row user none] }
    let s' : Session := { committed := some [User.row { user with name := "i̇ οδυσσευς" } none] }
    lower "İ ΟΔΥΣΣΕΥΣ" = "i̇ οδυσσευς" ∧ distance "İ ΟΔΥΣΣΕΥΣ" (lower "İ ΟΔΥΣΣΕΥΣ") = 0.0 ∧
      (search "ΟΔΥΣ" s').outcome = (search "ΟΔΥΣ" s).outcome.map (List.map FoundUser.lowered) := by
  intro first user s s'
  obtain ⟨-, -, zero, -, small⟩ := search_ignores_letter_case
  have lowers : lower "İ ΟΔΥΣΣΕΥΣ" = "i̇ οδυσσευς" := by decide +kernel
  have sessions : Disguise.Sessions Row.lowered s s' := ⟨rfl, rfl, by decide +kernel⟩
  exact ⟨lowers, (zero _ ⟨'i', by decide +kernel⟩).1, small _ s s' sessions⟩

end Directory

end UserDirectory
