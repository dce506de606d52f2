import UserDirectory.Proofs.Directory.Dialect
import UserDirectory.Proofs.Directory.Listed
import UserDirectory.Proofs.Input.Request
import UserDirectory.Proofs.Service.Call

/-!
# Users written back

Calls store what was accepted: a name of the right length and a canonical address. So a user on a
page can be written back as it is shown. The request is accepted and comes to an update of that one
row, in which only the time of the update is new.
-/
namespace UserDirectory

open Store Paging Input Time Directory

/-! ## What calls store -/

/-- A table of users whose names and addresses were accepted, those of deleted users apart. -/
structure Stored (t : Table) : Prop where
  wellFormed : WellFormed t
  acceptable : ∀ row ∈ t, row.deletedAt = none → Acceptable row.name row.email

theorem Stored.nil : Stored [] := ⟨.nil, fun _ hrow => absurd hrow List.not_mem_nil⟩

theorem Stored.modify {t : Table} (h : Stored t) {e : Edit} {id : String} {f : Row → Row}
    (is : e.apply t = t.modify id f)
    (acceptable : ∀ row, (f row).deletedAt = none → Acceptable (f row).name (f row).email) :
    Stored (e.apply t) := by
  refine ⟨h.wellFormed.apply e, ?_⟩
  rw [is]
  intro row hrow live
  obtain ⟨old, hold, rfl⟩ := mem_modify.1 hrow
  split at live
  · rename_i same
    rw [if_pos same]
    exact acceptable old live
  · rename_i other
    rw [if_neg other]
    exact h.acceptable old hold live

theorem Stored.erase {t : Table} (h : Stored t) (id : UserId) (now : Instant) :
    Stored ((Edit.erase id now).apply t) :=
  h.modify rfl fun _ live => absurd live (Option.some_ne_none now)

theorem Stored.write {t : Table} (h : Stored t) {q : UpsertRequest}
    (accepted : Acceptable q.name q.email)
    (now : Instant) : Stored ((Edit.write q.asWrite now).apply t) := by
  have named : q.asWrite.name = some q.name := rfl
  by_cases fresh : t.rowsOf q.id.text = []
  · refine ⟨h.wellFormed.apply _, ?_⟩
    rw [apply_fresh named now fresh]
    intro row hrow live
    rcases List.mem_append.1 hrow with old | new
    · exact h.acceptable row old live
    · obtain rfl := List.mem_singleton.1 new
      exact accepted
  · exact h.modify (apply_taken named now fresh) fun _ _ => accepted

/-- Calls with requests that were accepted, from the empty table on, store nothing else. -/
theorem Service.stored_run {service : Service} {s : Session} (closed : s.inTransaction = false)
    (empty : s.committed = some []) {calls : List Call}
    (accepted : ∀ q now, Call.upsert q now ∈ calls →
      ∃ payload, UpsertRequest.ofValue payload = .ok q) {t : Table}
    (reached : (service.run calls s).committed = some t) : Stored t := by
  have keeps : ∀ call ∈ calls, ∀ e ∈ call.edit?, ∀ t, Stored t → Stored (e.apply t) := by
    intro call hcall e edit t stored
    cases call with
    | list q | search q => cases edit
    | upsert q now =>
      cases edit
      obtain ⟨payload, read⟩ := accepted q now hcall
      exact stored.write (acceptable_of_ofValue read) now
    | delete id now =>
      cases edit
      exact stored.erase id now
  obtain ⟨t', committed, stored⟩ := committed_run closed keeps empty .nil
  obtain rfl := Option.some.inj (reached.symm.trans committed)
  exact stored

/-! ## Writing back -/

/-- The user is on a page of the table, whatever the query and whatever the session that sees the
table. -/
def Listed (t : Table) (u : User) : Prop :=
  ∃ (policy : Policy) (q : ListQuery) (s : Session) (page : Page), s.view = some t ∧
    (Directory.list policy q s).outcome = .ok page ∧ u ∈ page.users

theorem Listed.row_mem {t : Table} {u : User} (h : Listed t u) : User.row u none ∈ t := by
  obtain ⟨policy, q, s, page, sees, answered, hu⟩ := h
  obtain ⟨t', sees', member⟩ := row_mem_of_listed answered hu
  obtain rfl := Option.some.inj (sees.symm.trans sees')
  exact member

/-- Every user of a table of users who is not deleted is on a page, such as that of the one id. -/
theorem listed_iff {t : Table} (h : WellFormed t) {u : User} :
    Listed t u ↔ User.row u none ∈ t := by
  refine ⟨Listed.row_mem, fun member => ?_⟩
  let f : Filter := { ids := some [u.id] }
  obtain ⟨users, rows⟩ := Filter.exists_users_rows h f none
  have listed := fun v : User => Filter.mem_of_rows (u := v) rows
  have inUsers : u ∈ users := (listed u).2 ⟨member, by simp [f, Filter.Admits], by simp⟩
  have only : ∀ v ∈ users, v = u := by
    intro v hv
    obtain ⟨inTable, admitted, -⟩ := (listed v).1 hv
    have same : v.id = u.id := by simpa [f, Filter.Admits] using admitted
    exact User.row_injective (h.distinctIds.eq_of_id_eq inTable member (congrArg UserId.text same))
  have served : Session.Serves { committed := some t } t := ⟨rfl, rfl, rfl⟩
  let policy : Policy := {}
  have read : readToken none = .ok none := rfl
  have pos : 1 ≤ policy.pageSize (some 1) := by decide
  have small : policy.pageSize (some 1) < 9223372036854775808 := by decide
  rcases list_yields read pos small rows with yields | ⟨unfit, -⟩
  · refine ⟨policy, ⟨f.ids, f.name, none, some 1⟩, { committed := some t }, _, rfl,
      (yields _ served).1, ?_⟩
    cases users with
    | nil => cases inUsers
    | cons v others =>
      obtain rfl := only v List.mem_cons_self
      exact List.mem_cons_self
  · exact absurd (Filter.fits_of_few (f := f) (by simp [f, maxValues]) (by simp [f]) none _)
      unfit

/-- What a healthy store answers a write with, whatever it speaks, an embedded one with the same
table does as well. -/
theorem exists_embedded {s : Session} {t : Table} (healthy : s.Healthy) (sees : s.view = some t)
    (distinct : t.DistinctIds) :
    ∃ s' : Session, s'.Serves t ∧ ∀ w now, (write w now s).outcome = (write w now s').outcome := by
  rcases healthy.dialect with embedded | remote
  · exact ⟨s, ⟨embedded, healthy.outages, sees⟩, fun _ _ => rfl⟩
  · have twin : Session.Serves { s with dialect := .sqlite } t := ⟨rfl, healthy.outages, sees⟩
    exact ⟨_, twin,
      fun w now => (write_agrees ⟨twin, remote, healthy.outages, sees, distinct⟩ w now).1.symm⟩

/-- A healthy store overwrites the row of a user. -/
theorem write_outcome {s : Session} {t : Table} (healthy : s.Healthy) (sees : s.view = some t)
    (distinct : t.DistinctIds) {w : Write} {name : String} (named : w.name = some name)
    (now : Instant) {u : User} (same : u.id = w.id) (member : User.row u none ∈ t) :
    (write w now s).outcome = .ok (.updated (w.user name u.createdAt (some now))) := by
  have only : t.rowsOf w.id.text = [User.row u none] := by
    rw [← same]
    exact distinct.rowsOf_eq_singleton member
  obtain ⟨s', serves, alike⟩ := exists_embedded healthy sees distinct
  rw [alike]
  exact (write_old named now same only s' serves).1

/-- The user after it has been written back. -/
def rewritten (u : User) (now : Instant) : User := { u with updatedAt := some now }

/-- The one row with the id of the user changes as the user does. -/
theorem apply_writeBack {t : Table} (distinct : t.DistinctIds) {u : User}
    (member : User.row u none ∈ t)
    (now : Instant) : (Edit.write (writeBack u).asWrite now).apply t =
      t.modify u.id.text fun row => { row with updatedAt := some now } := by
  have taken : t.rowsOf u.id.text ≠ [] := List.ne_nil_of_mem (mem_rowsOf.2 ⟨member, rfl⟩)
  have named : (writeBack u).asWrite.name = some u.name := rfl
  rw [apply_taken named now taken]
  refine List.map_congr_left fun row hrow => ?_
  by_cases same : row.id = u.id.text
  · obtain rfl := distinct.eq_of_id_eq hrow member same
    rfl
  · have other : row.id ≠ (writeBack u).asWrite.id.text := same
    rw [if_neg same, if_neg other]

theorem upsert_writeBack {s : Session} {t : Table} (closed : s.inTransaction = false)
    (healthy : s.Healthy) (stored : s.committed = some t) (distinct : t.DistinctIds) {u : User}
    (member : User.row u none ∈ t) (now : Instant) :
    (Service.upsert (writeBack u) (some now) s).outcome = .ok (.updated (rewritten u now)) ∧
      (Service.upsert (writeBack u) (some now) s).session.committed =
        some (t.modify u.id.text fun row => { row with updatedAt := some now }) := by
  have sees : s.opened.view = some t := (Service.view_eq_committed closed).trans stored
  have opened : s.opened.Healthy := ⟨healthy.dialect, healthy.outages⟩
  have written : (write (writeBack u).asWrite now s.opened).outcome =
      .ok (.updated (rewritten u now)) :=
    write_outcome opened sees distinct rfl now rfl member
  obtain ⟨answered, after⟩ := Service.upsert_of_written closed stored written
  rw [apply_writeBack distinct member now] at after
  exact ⟨answered, after⟩

/-- A user on a page of a table that calls with accepted requests have made can be written back as
it is shown: the payload is accepted and read as the user, and changes nothing but the time of the
update. -/
theorem listed_users_written_back (service : Service) {s₀ : Session}
    (closed₀ : s₀.inTransaction = false) (empty : s₀.committed = some []) {calls : List Call}
    (accepted : ∀ q now, Call.upsert q now ∈ calls →
      ∃ payload, UpsertRequest.ofValue payload = .ok q) {t : Table}
    (reached : (service.run calls s₀).committed = some t) {u : User} (listed : Listed t u) :
    let q : UpsertRequest := ⟨u.id, u.name, u.email, u.userType, u.lastUpdatedWith⟩
    UpsertRequest.ofValue (.object (payload u)) = .ok q ∧
    ∀ (s : Session) (now : Instant), s.inTransaction = false → s.Healthy → s.committed = some t →
      let r := Service.upsert q (some now) s
      r.outcome = .ok (.updated { u with updatedAt := some now }) ∧
      r.session.committed = some (t.modify u.id.text fun row =>
        { row with updatedAt := some now }) := by
  have stored := Service.stored_run closed₀ empty accepted reached
  have member := listed.row_mem
  have acceptable := stored.acceptable _ member rfl
  refine ⟨ofValue_payload acceptable, fun s now closed healthy committed => ?_⟩
  exact upsert_writeBack closed healthy committed stored.wellFormed.distinctIds member now

/-- A user was written, deleted and written again with an address after a name, and is written back
on a server. -/
theorem listed_users_written_back_brought_back :
    let first : Instant := ⟨7, by decide, by decide⟩
    let second : Instant := ⟨8, by decide, by decide⟩
    let id : UserId := ⟨.oidc, "ada", by decide⟩
    let given : Value :=
      .object [("id", .text "oidc~ada"), ("name", .text "Ada"), ("email", .text " Ada <Ada@X.COM>")]
    let q : UpsertRequest := ⟨id, "Ada", some "Ada@x.com", .human, .createEndpoint⟩
    let u : User := ⟨id, "Ada", some "Ada@x.com", .human, .createEndpoint, first, some second⟩
    let s : Session := { committed := some [User.row u none], dialect := .postgresql }
    UpsertRequest.ofValue given = .ok q ∧ Listed [User.row u none] u ∧
    UpsertRequest.ofValue (.object (payload u)) = .ok q ∧
    (Service.upsert q (some first) s).outcome = .ok (.updated { u with updatedAt := some first }) ∧
    (Service.upsert q (some first) s).session.committed =
      some [User.row { u with updatedAt := some first } none] := by
  intro first second id given q u s
  have read : UpsertRequest.ofValue given = .ok q := by decide +kernel
  have calls : ∀ q' now, Call.upsert q' now ∈
    [.upsert q first, .delete id first, .upsert q second] →
      ∃ payload, UpsertRequest.ofValue payload = .ok q' := by
    intro q' now called
    obtain rfl : q' = q := by
      simp only [List.mem_cons, Call.upsert.injEq, List.not_mem_nil, reduceCtorEq, or_false,
        false_or] at called
      rcases called with ⟨rfl, -⟩ | ⟨rfl, -⟩ <;> rfl
    exact ⟨given, read⟩
  have reached :
    ((⟨{}⟩ : Service).run [.upsert q first, .delete id first, .upsert q second] {}).committed =
      some [User.row u none] := by decide +kernel
  have wellFormed : WellFormed [User.row u none] := by
    refine ⟨List.nodup_singleton _, fun row hrow => ?_⟩
    obtain rfl := List.mem_singleton.1 hrow
    exact ⟨u, rfl⟩
  have listed : Listed [User.row u none] u := (listed_iff wellFormed).2 List.mem_cons_self
  obtain ⟨accepted, writes⟩ := listed_users_written_back ⟨{}⟩ rfl rfl calls reached listed
  obtain ⟨outcome, after⟩ := writes s first rfl ⟨.inr rfl, rfl⟩ rfl
  refine ⟨read, listed, accepted, outcome, after.trans ?_⟩
  decide +kernel

end UserDirectory
