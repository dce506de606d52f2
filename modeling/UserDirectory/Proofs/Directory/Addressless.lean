import UserDirectory.Proofs.Directory.Disguise
import UserDirectory.Proofs.Directory.Found

/-!
# Users without an address

A row is found by its name and its address with a blank between them, and by an empty address where
it has none. So its trigrams are those of the name and those of the address, and no address is as
good as an empty one.
-/
namespace UserDirectory

open Store

/-- The row with an empty address where it has none. -/
def Store.Row.addressed (row : Row) : Row := { row with email := some (row.email.getD "") }

/-- The user with an empty address in place of none. -/
def FoundUser.addressed (u : FoundUser) : FoundUser := { u with email := some (u.email.getD "") }

namespace Directory

open Search Time

theorem disguise_addressed : Disguise Row.addressed FoundUser.addressed where
  id _ := rfl
  userType _ := rfl
  trigrams _ := rfl
  found _ _ _ := rfl

/-- A text joined by blanks has the trigrams of its parts and no more, and so has what a row is
found by. A search does not tell no address from an empty one: where the rows of two tables differ
in nothing else it finds the same users in the same order, or fails alike. Texts that are joined in
another order or more than once are as far from any other. -/
theorem search_of_joined_texts :
    (∀ a b : String, trigramSet (a ++ " " ++ b) = trigramSet a ∪ trigramSet b) ∧
    (∀ row : Row, trigramSet row.haystack = trigramSet row.name ∪ trigramSet (row.email.getD "")) ∧
    (∀ (term : String) (s s' : Session), s'.dialect = s.dialect → s'.outages = s.outages →
      s'.view.map (List.map Row.addressed) = s.view.map (List.map Row.addressed) →
      (search term s').outcome.map (List.map FoundUser.addressed) =
        (search term s).outcome.map (List.map FoundUser.addressed)) ∧
    ∀ (l l' : List String) (term : String), (∀ a, a ∈ l ↔ a ∈ l') →
      exactDistance (" ".intercalate l) term = exactDistance (" ".intercalate l') term ∧
        distance (" ".intercalate l) term = distance (" ".intercalate l') term := by
  refine ⟨trigramSet_append_blank, trigramSet_haystack, ?_, ?_⟩
  · intro term s s' dialect outages view
    -- Both sessions are searched as one that sees empty addresses.
    let filled : Session := { s with transaction := some (s.view.map (List.map Row.addressed)) }
    have first : Disguise.Sessions Row.addressed s filled := ⟨rfl, rfl, rfl⟩
    have second : Disguise.Sessions Row.addressed s' filled :=
      ⟨dialect.symm, outages.symm, view.symm⟩
    have alike : trigrams term = trigrams term := rfl
    rw [← disguise_addressed.search alike first, ← disguise_addressed.search alike second]
  · intro l l' term same
    have alike := similarity_congr (trigrams_intercalate_congr same)
      (rfl : trigrams term = trigrams term)
    rw [exactDistance, exactDistance, ← toRat_similarity, ← toRat_similarity, distance,
      distance, alike]
    exact ⟨rfl, rfl⟩

/-- Ada has no address in one table and an empty one in the other. She is found in both. -/
theorem search_of_joined_texts_unaddressed :
    let first : Instant := ⟨0, by decide, by decide⟩
    let ada : User :=
      ⟨⟨.oidc, "ada", by decide⟩, "Ada Lovelace", none, .human, .createEndpoint, first, none⟩
    let s : Session := { committed := some [User.row ada none] }
    let s' : Session := { committed := some [User.row { ada with email := some "" } none] }
    (∃ users, (search "Ada" s).outcome = .ok users ∧ users.map (·.email) = [none]) ∧
    (search "Ada" s').outcome.map (List.map FoundUser.addressed) =
      (search "Ada" s).outcome.map (List.map FoundUser.addressed) ∧
    distance (" ".intercalate ["Ada", "Lovelace", "Ada"]) "love" =
      distance (" ".intercalate ["Lovelace", "Ada"]) "love" := by
  intro first ada s s'
  obtain ⟨-, -, blind, joined⟩ := search_of_joined_texts
  refine ⟨?_, blind "Ada" s s' rfl rfl (by decide), (joined _ _ "love" (by simp [or_comm])).2⟩
  have searchable : Searchable [User.row ada none] := by
    intro row hrow
    obtain rfl := List.mem_singleton.1 hrow
    exact ⟨⟨_, UserId.parse_text _⟩, .human, rfl⟩
  obtain ⟨users, answered, profiles⟩ := exists_found (s := s) ⟨rfl, rfl, rfl⟩ searchable "Ada"
  have best : Table.best "Ada" [User.row ada none] = [User.row ada none] := by
    rw [Table.best, Table.ranked, List.mergeSort_singleton]
    rfl
  have emails := congrArg (List.map Profile.email) profiles
  rw [List.map_map, best] at emails
  exact ⟨users, answered, emails⟩

end Directory

end UserDirectory
