import UserDirectory.Proofs.Directory.Rowwise
import UserDirectory.Proofs.Directory.Transcript

/-!
# What a search finds

Where all ids parse, a search finds the users of the ten best rows, or of all rows where there are
fewer. It finds the same users in each table with the same profiles, whatever the order of its rows
and whatever else they hold.
-/
namespace UserDirectory.Directory

open Store Time

variable {s s' : Session} {t t' : Table} {term : String}

/-! ## The rows of a search -/

/-- A search reads the best rows. -/
theorem search_outcome (serves : s.Serves t) (term : String) (s' : Session) :
    (search term s).outcome = (readFoundUsers (t.best term) s').outcome := by
  have known : ∀ name, s.dialect ≠ .other name := by
    simp [serves.dialect]
  have reads : (found term).Yields t (readFoundUsers (t.best term) s').outcome t :=
    .bind (.execute (nearest_eq term t)) ((readFoundUsers_still _).yields t s')
  rw [search_of_known known]
  exact (reads s serves).1

/-! ## The users that are found -/

theorem FoundUser.profile_injective {u v : FoundUser}
    (h : FoundUser.profile u = FoundUser.profile v) : u = v := by
  obtain ⟨id, name, email, userType⟩ := u
  obtain ⟨id', name', email', userType'⟩ := v
  simp only [FoundUser.profile, Profile.mk.injEq] at h
  obtain ⟨ids, rfl, rfl, types⟩ := h
  obtain rfl : id = id' := UserId.text_injective ids
  obtain rfl : userType = userType' :=
    Option.some.inj (by rw [← UserType.ofLabel?_label, types, UserType.ofLabel?_label])
  rfl

theorem map_profile_of_read {rows : List Row} {users : List FoundUser}
    (read : List.Forall₂ (fun row u => FoundUser.profile u = row.profile) rows users) :
    users.map FoundUser.profile = rows.map Row.profile := by
  induction read with
  | nil => rfl
  | cons first _ ih => rw [List.map_cons, List.map_cons, first, ih]

/-- The users of the best rows are found, if the ids of these parse and their types are known. -/
theorem search_best (serves : s.Serves t) (term : String) (typed : ∀ row ∈ t.best term, row.Typed) :
    ReadsRows (t.best term) (search term s).outcome fun users =>
      users.map FoundUser.profile = (t.best term).map Row.profile := by
  rw [search_outcome serves term s]
  exact (readFoundUsers_reads typed s).mono fun _ => map_profile_of_read

/-- The rows of a table are users' rows as far as a search sees them. -/
def Searchable (t : Table) : Prop := ∀ row ∈ t, row.Parses ∧ row.Typed

theorem exists_found (serves : s.Serves t) (searchable : Searchable t) (term : String) :
    ∃ users, (search term s).outcome = .ok users ∧
      users.map FoundUser.profile = (t.best term).map Row.profile :=
  (search_best serves term fun row hrow => (searchable row (mem_of_mem_best hrow)).2).parsed
    fun row hrow => (searchable row (mem_of_mem_best hrow)).1

/-- Tables with the same profiles are both searchable or both not. -/
theorem Searchable.of_profiles (searchable : Searchable t)
    (same : ∀ p, p ∈ t.map Row.profile ↔ p ∈ t'.map Row.profile) : Searchable t' := by
  intro row' hrow'
  obtain ⟨row, hrow, alike⟩ := List.mem_map.1 ((same _).2 (List.mem_map_of_mem hrow'))
  obtain ⟨parses, typed⟩ := searchable row hrow
  obtain ⟨ids, -, -, types⟩ := Profile.mk.inj alike
  refine ⟨?_, ?_⟩
  · rwa [Row.Parses, ← ids]
  · rwa [Row.Typed, ← types]

/-- A search of a table in which all ids parse finds ten users, or all where there are fewer, in
strict order and each of them stored; all rows that it does not find are behind them. Distances that
are rounded lead to the same order. The profiles of the table decide which users these are. -/
theorem search_finds_ten_best (serves : s.Serves t) (distinct : t.DistinctIds)
    (searchable : Searchable t) (term : String) :
    ∃ users, (search term s).outcome = .ok users ∧
      users.length = min 10 t.length ∧
      (users.map (·.id)).Nodup ∧
      (users.Pairwise fun u v => (FoundUser.profile u).Precedes term (FoundUser.profile v)) ∧
      (∀ u ∈ users, FoundUser.profile u ∈ t.map Row.profile) ∧
      (∀ row ∈ t, row.profile ∉ users.map FoundUser.profile →
        ∀ u ∈ users, (FoundUser.profile u).Precedes term row.profile) ∧
      (∀ a b : Profile, a.Short term → b.Short term →
        (a.PrecedesRounded term b ↔ a.Precedes term b)) ∧
      ∀ (t' : Table) (s' : Session), s'.Serves t' → t'.DistinctIds →
        (∀ p, p ∈ t.map Row.profile ↔ p ∈ t'.map Row.profile) →
        (search term s').outcome = .ok users := by
  obtain ⟨users, answered, profiles⟩ := exists_found serves searchable term
  have count : users.length = (t.best term).length := by
    simpa using congrArg List.length profiles
  have sorted : (users.map FoundUser.profile).Pairwise fun p p' => p.Precedes term p' := by
    rw [profiles, List.pairwise_map]
    exact pairwise_best distinct term
  refine ⟨users, answered, count.trans (length_best term t), ?_, List.pairwise_map.1 sorted, ?_, ?_,
    fun _ _ => Profile.precedesRounded_iff, ?_⟩
  · have ids : (users.map (·.id)).map UserId.text = (t.best term).map (·.id) := by
      have read := congrArg (List.map Profile.id) profiles
      rw [List.map_map, List.map_map] at read
      rw [List.map_map]
      exact read
    exact .of_map UserId.text (ids ▸ nodup_best distinct term)
  · intro u hu
    obtain ⟨row, hrow, same⟩ := List.mem_map.1 (profiles ▸ List.mem_map_of_mem hu)
    exact List.mem_map.2 ⟨row, mem_of_mem_best hrow, same⟩
  · intro row hrow missed u hu
    obtain ⟨found, hfound, same⟩ := List.mem_map.1 (profiles ▸ List.mem_map_of_mem hu)
    rw [← same]
    refine precedes_of_not_mem_best distinct hfound hrow fun best => missed ?_
    rw [profiles]
    exact List.mem_map_of_mem best
  · intro t' s' serves' distinct' same
    obtain ⟨users', answered', profiles'⟩ := exists_found serves' (searchable.of_profiles same) term
    have alike : users.map FoundUser.profile = users'.map FoundUser.profile := by
      rw [profiles, profiles', Table.best, Table.best, List.map_take, List.map_take,
        map_profile_ranked distinct distinct' same]
    rw [answered', List.map_injective_iff.2 (fun _ _ => FoundUser.profile_injective) alike]

/-- Two users of one name, one of them deleted, are found in either order of their rows and whenever
these were written. -/
theorem search_finds_ten_best_tied :
    let first : Instant := ⟨0, by decide, by decide⟩
    let second : Instant := ⟨1, by decide, by decide⟩
    let ada : User :=
      ⟨⟨.oidc, "ada", by decide⟩, "Deleted User", none, .human, .createEndpoint, first, none⟩
    let bob : User :=
      ⟨⟨.oidc, "bob", by decide⟩, "Deleted User", none, .human, .updateEndpoint,
        second, some second⟩
    let later : User :=
      { bob with lastUpdatedWith := .createEndpoint, createdAt := first, updatedAt := none }
    let s : Session := { committed := some [User.row bob (some second), User.row ada none] }
    let s' : Session := { committed := some [User.row ada (some first), User.row later none] }
    ∃ users, (search "user" s).outcome = .ok users ∧ (search "user" s').outcome = .ok users ∧
      users.length = 2 ∧
      users.Pairwise fun u v => (FoundUser.profile u).Precedes "user" (FoundUser.profile v) := by
  intro first second ada bob later s s'
  have searchable : Searchable [User.row bob (some second), User.row ada none] := by
    intro row hrow
    rcases List.mem_pair.1 hrow with rfl | rfl <;> exact ⟨⟨_, UserId.parse_text _⟩, .human, rfl⟩
  obtain ⟨users, answered, count, -, sorted, -, -, -, alike⟩ :=
    search_finds_ten_best (s := s) ⟨rfl, rfl, rfl⟩
    (by decide +kernel) searchable "user"
  refine ⟨users, answered, ?_, count, sorted⟩
  refine alike [User.row ada (some first), User.row later none] s' ⟨rfl, rfl, rfl⟩
    (by decide +kernel) fun p => ?_
  simp only [List.map_cons, List.map_nil]
  exact (List.Perm.swap _ _ _).mem_iff

end UserDirectory.Directory
