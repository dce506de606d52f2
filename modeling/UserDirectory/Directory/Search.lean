import UserDirectory.Directory.Mapping
import UserDirectory.Store.Postgres

/-!
# Searching users

A search finds the ten users whose name and address are most similar to a term, deleted users too.
-/
namespace UserDirectory.Directory

open Store

def searchFailure (_ : Refusal) : Error := .store .search

/-- Searches with a given way to have a server's statement answered. -/
def searchVia (server : PostgresSearch → Action Error (List Row)) (term : String) :
    Action Error (List FoundUser) := fun s =>
  match s.dialect with
  | .other name => Action.fail (.unsupportedDialect name) s
  | .postgresql => (server ⟨term⟩ >>= readFoundUsers) s
  | .sqlite => (Action.execute searchFailure (nearest term) >>= readFoundUsers) s

def search (term : String) : Action Error (List FoundUser) :=
  searchVia (fun stmt => Action.execute searchFailure stmt.run) term

end UserDirectory.Directory
