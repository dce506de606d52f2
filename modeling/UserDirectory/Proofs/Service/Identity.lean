import UserDirectory.Proofs.Input.Identified
import UserDirectory.Proofs.Service.Failure
import UserDirectory.Proofs.Service.PageSize
import UserDirectory.Proofs.Service.WriteBack

/-!
# The text of an id from request to token

An id is read from a text once, when a request is checked. From then on it is stored, shown on pages
and put into tokens by its text, which is the one that was given.
-/
namespace UserDirectory

open Store Paging Input Time Directory

/-! ## Writing -/

/-- A write that a healthy store answers shows the user of its id. -/
theorem Directory.write_answers {s : Session} {t : Table} (healthy : s.Healthy)
    (sees : s.view = some t) (wellFormed : WellFormed t) {w : Write} {name : String}
    (named : w.name = some name) (now : Instant) :
    ∃ outcome, (write w now s).outcome = .ok outcome ∧ outcome.user.id = w.id := by
  obtain ⟨s', serves, alike⟩ := exists_embedded healthy sees wellFormed.distinctIds
  rw [alike]
  by_cases fresh : t.rowsOf w.id.text = []
  · exact ⟨_, (write_new named now fresh s' serves).1, rfl⟩
  · obtain ⟨u, deletedAt, same, only⟩ := wellFormed.exists_only fresh
    exact ⟨_, (write_old named now same only s' serves).1, rfl⟩

/-- It leaves one row of the id, which is not deleted. -/
theorem Directory.rowsOf_apply_answered {t : Table} (wellFormed : WellFormed t) {w : Write}
    {name : String} (named : w.name = some name) (now : Instant) :
    ∃ u, u.id = w.id ∧ ((Edit.write w now).apply t).rowsOf w.id.text = [User.row u none] := by
  rw [rowsOf_apply_write named now t]
  split
  · exact ⟨_, rfl, rfl⟩
  · rename_i taken
    obtain ⟨u, deletedAt, same, only⟩ := wellFormed.exists_only taken
    rw [only, List.map_singleton, overwritten_row same]
    exact ⟨_, rfl, rfl⟩

/-! ## Listing -/

/-- A list of one id has the row of its user. -/
theorem Directory.rows_of_one {t : Table} (wellFormed : WellFormed t) {u : User}
    (member : User.row u none ∈ t) :
    Filter.rows { ids := some [u.id] } none t = [User.row u none] := by
  refine (PageQuery.pairwise_rows wellFormed.distinctIds _).eq_of_mem_iff
    (List.pairwise_singleton _ _) fun row => ?_
  rw [PageQuery.mem_rows, List.mem_singleton]
  constructor
  · rintro ⟨inTable, selected⟩
    obtain ⟨v, hv⟩ := wellFormed.users row inTable
    rw [hv] at selected
    obtain ⟨-, admitted, -⟩ := Filter.selects_row_iff.1 selected
    have same : v.id = u.id := by simpa [Filter.Admits] using admitted
    refine wellFormed.distinctIds.eq_of_id_eq inTable member ?_
    rw [hv, User.id_row, User.id_row, same]
  · rintro rfl
    exact ⟨member, Filter.selects_row_iff.2 ⟨rfl, by simp [Filter.Admits], by simp⟩⟩

/-- A request for the page of one id is accepted. -/
theorem ofFields_one (id : UserId) :
    ListRequest.ofFields [("filter_ids", .list [.text id.text]), ("page_size", .int 1)] =
      .ok { filterIds := some [id], pageSize := some 1 } := by
  have ids : optional [("filter_ids", .list [.text id.text]), ("page_size", .int 1)]
    "filter_ids" asUserIds =
      .ok (some [id]) := optional_asUserIds_eq_ok_iff.2 rfl
  simp only [ListRequest.ofFields, ids]
  rfl

namespace Service

variable {service : Service} {s : Session}

/-- The page of one id, whatever the sizes that the service is set to. -/
theorem list_one (service : Service) {t : Table} (closed : s.inTransaction = false)
    (healthy : s.Healthy) (stored : s.committed = some t) (wellFormed : WellFormed t) {u : User}
    (member : User.row u none ∈ t) :
    (service.list { filterIds := some [u.id], pageSize := some 1 } s).outcome =
      .ok ⟨[u], some (User.cursor u).token⟩ := by
  let q : ListRequest := { filterIds := some [u.id], pageSize := some 1 }
  have size : service.policy.pageSize q.pageSize = 1 := by
    simp only [q, Policy.pageSize]
    omega
  have served : q.asQuery.Served service.policy t :=
    ListQuery.served_of_fits (by rw [ListRequest.asQuery, size]; decide)
      (Filter.fits_of_few (by simp [q, ListRequest.asQuery, maxValues])
        (by simp [q, ListRequest.asQuery])) t
  obtain ⟨page, answered⟩ := list_accepted closed healthy stored wellFormed served rfl
  obtain ⟨-, -, next⟩ := (service.list_closes q closed).answered page answered
  obtain ⟨after, t', rows, read, sees, paged, users⟩ := Directory.list_eq_ok (list_eq_ok answered).2
  obtain rfl : none = after := Except.ok.inj read
  obtain rfl : t' = t := Option.some.inj (sees.symm.trans ((view_eq_committed closed).trans stored))
  have whole : rows = [User.row u none] := by
    have listed : (q.asQuery.pageQuery service.policy none).rows t' = [User.row u none] :=
      rows_of_one wellFormed member
    rw [(rows_of_page paged).1, listed,
      show (q.asQuery.pageQuery service.policy none).limit = 1 from size]
    rfl
  rw [whole] at users
  obtain ⟨v, others, same, none, shown⟩ := List.forall₂_cons_left_iff.1 users
  obtain rfl := List.forall₂_nil_left_iff.1 none
  obtain rfl : u = v := User.row_injective same
  rw [answered]
  obtain ⟨listed, token⟩ := page
  obtain rfl : listed = [u] := shown
  obtain rfl : token = some (User.cursor u).token := next
  rfl

/-! ## From the request to the token -/

/-- What becomes of the text of an id in a write: the answer has it, one row is stored under it and
not deleted, a list of it shows one user, who has it, and so has the cursor that the token of this
page stands for. -/
structure KeepsText (given : String) (r : Execution ServiceError Outcome) : Prop where
  answered : ∃ outcome, r.outcome = .ok outcome ∧ outcome.user.id.text = given
  stored : ∃ t row, r.session.committed = some t ∧ t.rowsOf given = [row] ∧ row.id = given ∧
    row.deletedAt = none
  listed : ∀ (service : Service) (s : Session), s.inTransaction = false → s.Healthy →
    s.committed = r.session.committed →
      ∃ q page u token, ListRequest.ofFields
        [("filter_ids", .list [.text given]), ("page_size", .int 1)] = .ok q ∧
        (service.list q s).outcome = .ok page ∧ page.users = [u] ∧ u.id.text = given ∧
        page.nextToken = some token ∧ Cursor.ofToken token = .ok ⟨u.createdAt, given⟩

theorem keepsText_upsert {t : Table} (closed : s.inTransaction = false) (healthy : s.Healthy)
    (stored : s.committed = some t) (wellFormed : WellFormed t) (q : UpsertRequest)
    (now : Instant) :
    KeepsText q.id.text (upsert q (some now) s) := by
  have sees : s.opened.view = some t := (view_eq_committed closed).trans stored
  have opened : s.opened.Healthy := ⟨healthy.dialect, healthy.outages⟩
  have named : q.asWrite.name = some q.name := rfl
  obtain ⟨outcome, written, same⟩ := write_answers opened sees wellFormed named now
  obtain ⟨answered, after⟩ := upsert_of_written closed stored written
  obtain ⟨u, about, only⟩ := rowsOf_apply_answered wellFormed named now
  have member := (mem_rowsOf.1 (only ▸ List.mem_singleton_self (User.row u none))).1
  have known : u.id = q.id := about
  refine ⟨⟨outcome, answered, congrArg UserId.text same⟩,
    ⟨_, _, after, only, congrArg UserId.text about, rfl⟩, ?_⟩
  intro service s' closed' healthy' committed
  have page := list_one service closed' healthy' (committed.trans after) (wellFormed.apply _) member
  rw [known] at page
  have token := Cursor.ofToken_token (c := User.cursor u) (UserId.text_ne_empty u.id)
  refine ⟨_, _, u, _, ofFields_one q.id, page, rfl, congrArg UserId.text known, rfl, token.trans ?_⟩
  rw [User.cursor, known]

/-- What is on a page is stored under the same text, and so is what its token stands for. -/
theorem texts_of_page {q : ListRequest} {page : Page}
    (answered : (service.list q s).outcome = .ok page) :
    (∀ u ∈ page.users, ∃ t row, s.committed = some t ∧ row ∈ t ∧ row.id = u.id.text) ∧
      ∀ token, page.nextToken = some token → ∃ u, page.users.getLast? = some u ∧
        Cursor.ofToken token = .ok ⟨u.createdAt, u.id.text⟩ := by
  obtain ⟨closed, listed⟩ := list_eq_ok answered
  obtain ⟨-, -, next⟩ := (service.list_closes q closed).answered page answered
  constructor
  · intro u hu
    obtain ⟨t, sees, member⟩ := row_mem_of_listed listed hu
    exact ⟨t, _, (view_eq_committed closed).symm.trans sees, member, rfl⟩
  · intro token given
    obtain ⟨u, last, rfl⟩ := Option.map_eq_some_iff.1 (next.symm.trans given)
    exact ⟨u, last, Cursor.ofToken_token (UserId.text_ne_empty u.id)⟩

/-- Reading accepts the texts of ids and no others, and is inverse to printing. It comes to the same
as making an id of what stands on both sides of the first tilde. Requests are blamed for other
texts, and hold the ids of the texts that were given. After any calls from the empty table on, a
healthy store answers a write with the text that was given, and keeps it in one row, on pages and in
their tokens. -/
theorem ids_keep_their_text :
    (∀ s : String, ((∃ id, UserId.parse s = .ok id) ↔ IsIdText s) ∧
      ∀ id, UserId.parse s = .ok id → id.text = s) ∧
    (∀ id : UserId, UserId.make id.provider.name id.subject = .ok id ∧
      UserId.parse id.text = .ok id) ∧
    (∀ provider subject id, UserId.make provider subject = .ok id →
      id.text = provider ++ "~" ++ subject ∧ UserId.parse id.text = .ok id) ∧
    (∀ provider subject : String, '~' ∉ provider.toList →
      UserId.parse (provider ++ "~" ++ subject) = UserId.make provider subject) ∧
    Function.Injective UserId.text ∧
    (∀ fields : Fields, Blames (UpsertRequest.ofFields fields) "id" ↔
      ¬ ∃ s, fields.lookup "id" = some (.text s) ∧ IsIdText s) ∧
    (∀ fields : Fields, Blames (ListRequest.ofFields fields) "filter_ids" ↔
      ¬ (fields.lookup "filter_ids" = none ∨ fields.lookup "filter_ids" = some .null ∨
        ∃ texts : List String, fields.lookup "filter_ids" = some (.list (texts.map .text)) ∧
          ∀ s ∈ texts, IsIdText s)) ∧
    (∀ (fields : Fields) (q : ListRequest), ListRequest.ofFields fields = .ok q →
      (q.filterIds = none ∧
          (fields.lookup "filter_ids" = none ∨ fields.lookup "filter_ids" = some .null)) ∨
        ∃ (given : List String) (ids : List UserId),
          fields.lookup "filter_ids" = some (.list (given.map .text)) ∧
          q.filterIds = some ids ∧ given.mapM UserId.parse = .ok ids ∧
          ids.map UserId.text = given) ∧
    (∀ (fields : Fields) (q : UpsertRequest), UpsertRequest.ofFields fields = .ok q →
      ∃ given, fields.lookup "id" = some (.text given) ∧ UserId.parse given = .ok q.id ∧
        q.id.text = given ∧
        ∀ (service : Service) (s₀ : Session) (calls : List Call) (s : Session) (now : Instant),
          s₀.inTransaction = false → s₀.committed = some [] → s.inTransaction = false → s.Healthy →
          s.committed = (service.run calls s₀).committed →
          KeepsText given (upsert q (some now) s)) ∧
    ∀ (service : Service) (q : ListRequest) (s : Session) (page : Page),
      (service.list q s).outcome = .ok page →
      (∀ u ∈ page.users, ∃ t row, s.committed = some t ∧ row ∈ t ∧ row.id = u.id.text) ∧
        ∀ token, page.nextToken = some token → ∃ u, page.users.getLast? = some u ∧
          Cursor.ofToken token = .ok ⟨u.createdAt, u.id.text⟩ := by
  refine ⟨fun s => ⟨UserId.exists_parse_iff, fun id => UserId.text_eq_of_parse⟩,
    fun id => ⟨UserId.make_name_subject id, UserId.parse_text id⟩,
    fun provider subject id made => ?_, fun _ _ => UserId.parse_join,
    fun _ _ => UserId.text_injective, fun _ => UpsertRequest.blames_id_iff,
    fun _ => ListRequest.blames_filterIds_iff, fun fields q accepted => ?_,
    fun fields q accepted => ?_, fun _ _ _ _ => texts_of_page⟩
  · obtain ⟨rfl, rfl⟩ := UserId.make_eq_ok made
    exact ⟨rfl, UserId.parse_text id⟩
  · have found := ListRequest.lookup_filterIds accepted
    cases ids : q.filterIds with
    | none =>
      rw [ids] at found
      exact .inl ⟨rfl, found⟩
    | some ids' =>
      rw [ids] at found
      refine .inr ⟨ids'.map UserId.text, ids', found.trans ?_, rfl, mapM_parse_eq_ok_iff.2 rfl, rfl⟩
      rw [List.map_map]
      rfl
  · refine ⟨q.id.text, UpsertRequest.lookup_id accepted, UserId.parse_text q.id, rfl, ?_⟩
    intro service s₀ calls s now closed₀ empty closed healthy same
    obtain ⟨history, committed, -⟩ := exists_made service closed₀ empty calls
    exact keepsText_upsert closed healthy (same.trans committed)
      (WellFormed.nil.applyAll history) q now

/-- A subject with a tilde and a letter of two bytes: the id is read, written after a deletion, and
listed. -/
theorem ids_keep_their_text_tilde :
    let given := "oidc~a~é"
    let fields : Fields := [("id", .text given), ("name", .text "Ada")]
    let id : UserId := ⟨.oidc, "a~é", by decide⟩
    let q : UpsertRequest := ⟨id, "Ada", none, .human, .createEndpoint⟩
    let first : Instant := ⟨7, by decide, by decide⟩
    let calls : List Call := [.upsert q first, .delete id first]
    let s : Session := (⟨{}⟩ : Service).run calls {}
    IsIdText given ∧ UserId.make "oidc" "a~é" = .ok id ∧ UpsertRequest.ofFields fields = .ok q ∧
    UserId.parse given = .ok q.id ∧ KeepsText given (upsert q (some first) s) ∧
    Blames (UpsertRequest.ofFields [("id", .text "saml~a"), ("name", .text "Ada")]) "id" := by
  intro given fields id q first calls s
  obtain ⟨reads, -, -, -, -, blames, -, -, accepts, -⟩ := ids_keep_their_text
  have parsed : UserId.parse given = .ok id := by decide +kernel
  have accepted : UpsertRequest.ofFields fields = .ok q := by decide +kernel
  obtain ⟨given', found, -, -, keeps⟩ := accepts fields q accepted
  obtain rfl : given = given' := Value.text.inj (Option.some.inj found)
  have foreign : ¬ ∃ text, List.lookup "id" [("id", Value.text "saml~a"), ("name", .text "Ada")] =
    some (.text text) ∧
      IsIdText text := by
    rintro ⟨text, found', spelled⟩
    obtain rfl : "saml~a" = text := Value.text.inj (Option.some.inj found')
    obtain ⟨id', read⟩ := (reads "saml~a").1.2 spelled
    have unread : UserId.parse "saml~a" = .error (.unknownProvider "saml") := by decide +kernel
    exact nomatch unread.symm.trans read
  refine ⟨(reads given).1.1 ⟨id, parsed⟩, by decide +kernel, accepted, parsed, ?_,
    (blames _).2 foreign⟩
  exact keeps ⟨{}⟩ {} calls s first rfl rfl (by decide +kernel)
    ⟨.inl (by decide +kernel), by decide +kernel⟩ rfl

end Service

end UserDirectory
