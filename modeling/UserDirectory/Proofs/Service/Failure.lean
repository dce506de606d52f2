import UserDirectory.Proofs.Directory.History
import UserDirectory.Proofs.Service.Call

/-!
# Failures of calls

The committed table after any calls is that of the edits that were answered, one after the other. So
on a healthy store a list fails for a token that is no cursor, and a deletion for an id that no
answered call has written. No other call fails, and the tokens of earlier lists are read.
-/
namespace UserDirectory

open Store Paging Input Time Directory

/-! ## Answered calls -/

/-- A call of a run was answered. -/
def Answered (service : Service) (s : Session) (calls : List Call) (call : Call)
    (reply : Reply) : Prop :=
  ∃ before after, calls = before ++ call :: after ∧
    (call.action service (service.run before s)).outcome = .ok reply

/-- A call of a run that was answered has written an id. -/
def Wrote (service : Service) (s : Session) (calls : List Call) (id : UserId) : Prop :=
  ∃ q now reply, Answered service s calls (.upsert q now) reply ∧ q.id = id

namespace Service

variable {service : Service} {s : Session} {calls : List Call}

theorem answered_concat {last call : Call} {reply : Reply} :
    Answered service s (calls ++ [last]) call reply ↔ Answered service s calls call reply ∨
      (call = last ∧ (last.action service (service.run calls s)).outcome = .ok reply) := by
  constructor
  · rintro ⟨before, after, same, answered⟩
    cases after using List.reverseRecOn with
    | nil =>
      obtain ⟨rfl, rest⟩ := List.append_inj' same rfl
      obtain rfl := List.singleton_inj.1 rest
      exact .inr ⟨rfl, answered⟩
    | append_singleton after c =>
      rw [← List.cons_append, ← List.append_assoc] at same
      obtain ⟨rfl, -⟩ := List.append_inj' same rfl
      exact .inl ⟨before, after, rfl, answered⟩
  · rintro (⟨before, after, rfl, answered⟩ | ⟨rfl, answered⟩)
    · exact ⟨before, after ++ [last], by simp, answered⟩
    · exact ⟨calls, [], rfl, answered⟩

/-- The edits that the answered calls of a run have made, which are its writes and deletions. -/
structure Made (service : Service) (s : Session) (calls : List Call) (history : List Edit) :
    Prop where
  committed : (service.run calls s).committed = some (applyAll history [])
  upserts : ∀ id : UserId, upserts id history ≠ [] ↔ Wrote service s calls id

theorem wrote_concat {last : Call} {id : UserId} :
    Wrote service s (calls ++ [last]) id ↔ Wrote service s calls id ∨
    ∃ q now reply, last = .upsert q now ∧
      (last.action service (service.run calls s)).outcome = .ok reply ∧
      q.id = id := by
  simp only [Wrote, answered_concat]
  constructor
  · rintro ⟨q, now, reply, answered | ⟨rfl, answered⟩, same⟩
    · exact .inl ⟨q, now, reply, answered, same⟩
    · exact .inr ⟨q, now, reply, rfl, answered, same⟩
  · rintro (⟨q, now, reply, answered, same⟩ | ⟨q, now, reply, rfl, answered, same⟩)
    · exact ⟨q, now, reply, .inl answered, same⟩
    · exact ⟨q, now, reply, .inr ⟨rfl, answered⟩, same⟩

theorem committed_of_made {call : Call} {history : List Edit} {c : Contents}
    (made : call.Made (some (applyAll history [])) c) :
    c = some (applyAll (history ++ call.edit?.toList) []) := by
  cases call with
  | list q | search q => simpa [Call.Made, Call.edit?] using made
  | upsert q now | delete id now =>
    obtain ⟨t, same, rfl⟩ := made
    obtain rfl := Option.some.inj same
    exact congrArg some (applyAll_concat history _ []).symm

theorem upserts_edit?_ne_nil_iff {call : Call} {history : List Edit} {id : UserId} :
    upserts id (history ++ call.edit?.toList) ≠ [] ↔
      upserts id history ≠ [] ∨ ∃ q now, call = .upsert q now ∧ q.id = id := by
  cases call with
  | list q | search q => simp [Call.edit?]
  | delete x now => simp [Call.edit?, upserts_concat, Edit.upsertOf?]
  | upsert q now =>
    by_cases same : q.id = id
    · simp [Call.edit?, upserts_concat, Edit.upsertOf?, UpsertRequest.asWrite, same]
    · simp [Call.edit?, upserts_concat, Edit.upsertOf?, UpsertRequest.asWrite, same]

theorem exists_made (service : Service) (closed : s.inTransaction = false)
    (empty : s.committed = some []) (calls : List Call) :
    ∃ history, Made service s calls history := by
  induction calls using List.reverseRecOn with
  | nil =>
    refine ⟨[], empty, fun id => ⟨fun written => absurd rfl written, ?_⟩⟩
    rintro ⟨q, now, reply, ⟨before, after, none, -⟩, -⟩
    simp at none
  | append_singleton calls call ih =>
    obtain ⟨history, committed, written⟩ := ih
    have stays : (service.run calls s).inTransaction = false := closed_run closed calls
    have closes := call.closes service stays
    cases ended : (call.action service (service.run calls s)).outcome with
    | error e =>
      refine ⟨history, ?_, fun id => ?_⟩
      · rw [run_concat, (closes.refused e ended).1, committed]
      · rw [written, wrote_concat, ended]
        simp
    | ok reply =>
      have made := closes.answered reply ended
      rw [committed] at made
      refine ⟨history ++ call.edit?.toList, ?_, fun id => ?_⟩
      · rw [run_concat]
        exact committed_of_made made
      · rw [upserts_edit?_ne_nil_iff, written, wrote_concat, ended]
        simp

/-! ## Failures on a healthy store -/

theorem readToken_some {text : String} (nonempty : text ≠ "") :
    readToken (some text) = (Cursor.ofToken text).map some := by
  simp [readToken, nonEmpty, Option.filter, nonempty]

theorem readToken_eq_error_iff {token : Option String} {e : CursorError} :
    readToken token = .error e ↔ ∃ text, token = some text ∧ text ≠ "" ∧
      Cursor.ofToken text = .error e := by
  cases token with
  | none => simp [readToken, nonEmpty]
  | some text =>
    by_cases empty : text = ""
    · simp [readToken, nonEmpty, Option.filter, empty]
    · rw [readToken_some empty]
      cases read : Cursor.ofToken text <;> simp [empty, Except.map, read]

/-- A list with a token that is no cursor is a bad request, whatever the store does. -/
theorem list_rejected {q : ListRequest} {e : CursorError} (closed : s.inTransaction = false)
    (rejected : readToken q.pageToken = .error e) :
    (service.list q s).outcome = .error (.http (.badToken e)) := by
  have closes := service.list_closes q closed
  cases ended : (service.list q s).outcome with
  | ok page =>
    obtain ⟨-, ⟨after, accepted⟩, -⟩ := closes.answered page ended
    rw [rejected] at accepted
    cases accepted
  | error e' =>
    obtain ⟨-, ⟨reason, rejecting, rfl⟩, -⟩ := closes.refused e' ended
    obtain rfl := rejecting e rejected
    rfl

/-- A list with any other token is answered if the store serves its statement. -/
theorem list_accepted {q : ListRequest} {after : Option Cursor} {t : Table}
    (closed : s.inTransaction = false) (healthy : s.Healthy) (stored : s.committed = some t)
    (wellFormed : WellFormed t) (served : q.asQuery.Served service.policy t)
    (accepted : readToken q.pageToken = .ok after) :
    ∃ page, (service.list q s).outcome = .ok page := by
  have closes := service.list_closes q closed
  cases ended : (service.list q s).outcome with
  | ok page => exact ⟨page, rfl⟩
  | error e =>
    obtain ⟨-, -, notSafe⟩ := closes.refused e ended
    exact absurd ⟨⟨after, accepted⟩, t, stored, fun row => wellFormed.ofUser, served⟩
      (notSafe healthy)

theorem upsert_outcome (q : UpsertRequest) (now : Instant) {t : Table}
    (closed : s.inTransaction = false) (healthy : s.Healthy) (stored : s.committed = some t)
    (wellFormed : WellFormed t) :
    ∃ outcome, (upsert q (some now) s).outcome = .ok outcome := by
  have closes := upsert_closes q now closed
  cases ended : (upsert q (some now) s).outcome with
  | ok outcome => exact ⟨outcome, rfl⟩
  | error e =>
    obtain ⟨-, -, notSafe⟩ := closes.refused e ended
    refine absurd ⟨t, stored, Option.some_ne_none q.name, ?_⟩ (notSafe healthy)
    by_cases fresh : t.rowsOf q.id.text = []
    · simp [UpsertRequest.asWrite, fresh]
    · obtain ⟨row, only⟩ := wellFormed.distinctIds.exists_rowsOf fresh
      simp [UpsertRequest.asWrite, only]

theorem delete_outcome (id : UserId) (now : Instant) {t : Table} (closed : s.inTransaction = false)
    (healthy : s.Healthy) (stored : s.committed = some t) :
    (delete id (some now) s).outcome =
      if t.rowsOf id.text = [] then .error (.http .userNotFound) else .ok () := by
  have closes := delete_closes id now closed
  cases ended : (delete id (some now) s).outcome with
  | ok _ =>
    obtain ⟨t', stored', taken, -⟩ := closes.answered () ended
    obtain rfl := Option.some.inj (stored.symm.trans stored')
    rw [if_neg taken]
  | error e =>
    obtain ⟨-, ⟨rfl, t', stored', missing⟩ | ⟨-, gone⟩, -⟩ := closes.refused e ended
    · obtain rfl := Option.some.inj (stored.symm.trans stored')
      rw [if_pos missing]
    · rw [gone healthy] at stored
      cases stored

theorem search_outcome (q : SearchRequest) {t : Table} (closed : s.inTransaction = false)
    (healthy : s.Healthy) (stored : s.committed = some t) (wellFormed : WellFormed t) :
    ∃ users, (search q s).outcome = .ok users := by
  have closes := search_closes q closed
  cases ended : (search q s).outcome with
  | ok users => exact ⟨users, rfl⟩
  | error e =>
    obtain ⟨-, -, notSafe⟩ := closes.refused e ended
    exact absurd ⟨t, stored, fun row => wellFormed.ofUser⟩ (notSafe healthy)

/-- The token of a page that was answered is that of a cursor. -/
theorem token_of_answered (closed : s.inTransaction = false) {q : ListRequest} {page : Page}
    {token : String} (answered : Answered service s calls (.list q) (.page page))
    (next : page.nextToken = some token) :
    token ≠ "" ∧ ∃ cursor, Cursor.ofToken token = .ok cursor := by
  obtain ⟨before, after, rfl, answered⟩ := answered
  have stays : (service.run before s).inTransaction = false := closed_run closed before
  have listed : (service.list q (service.run before s)).outcome = .ok page := by
    have replied :=
      (reply_apply (service.list q) .page (service.run before s)).2.symm.trans answered
    cases ended : (service.list q (service.run before s)).outcome with
    | error e =>
      rw [ended] at replied
      cases replied
    | ok other =>
      rw [ended] at replied
      cases replied
      rfl
  obtain ⟨-, -, named⟩ := (service.list_closes q stays).answered page listed
  obtain ⟨u, -, rfl⟩ := Option.map_eq_some_iff.1 (named.symm.trans next)
  exact ⟨Cursor.token_ne_empty _, _, Cursor.ofToken_token (UserId.text_ne_empty u.id)⟩

/-- After any calls from the empty table on, a healthy store fails a list for a token that is no
cursor, which is reported with the reason, and a deletion for an id that no answered call has
written. It fails nothing else, and reads the tokens of earlier lists. -/
theorem calls_on_healthy_store (service later : Service) (s₀ : Session)
    (closed₀ : s₀.inTransaction = false) (empty : s₀.committed = some []) (calls : List Call)
    {s : Session} (closed : s.inTransaction = false) (healthy : s.Healthy)
    (same : s.committed = (service.run calls s₀).committed) :
    (∀ q : ListRequest, (∀ t, s.committed = some t → q.asQuery.Served later.policy t) →
      ((∃ e, (later.list q s).outcome = .error e) ↔
        ∃ token e, q.pageToken = some token ∧ token ≠ "" ∧ Cursor.ofToken token = .error e) ∧
      ∀ token e, q.pageToken = some token → token ≠ "" → Cursor.ofToken token = .error e →
        ∃ h : HttpError, (later.list q s).outcome = .error (.http h) ∧ h.status = 400 ∧
          h.detail = e.message) ∧
    (∀ (id : UserId) (now : Instant),
      ((∃ e, (delete id (some now) s).outcome = .error e) ↔ ¬ Wrote service s₀ calls id) ∧
      ∀ e, (delete id (some now) s).outcome = .error e →
        ∃ h : HttpError, e = .http h ∧ h.status = 404) ∧
    (∀ (q : UpsertRequest) (now : Instant),
      ∃ outcome, (upsert q (some now) s).outcome = .ok outcome) ∧
    (∀ q : SearchRequest, ∃ users, (search q s).outcome = .ok users) ∧
    ∀ (q : ListRequest) (page : Page) (token : String),
      Answered service s₀ calls (.list q) (.page page) →
      page.nextToken = some token → (∃ cursor, Cursor.ofToken token = .ok cursor) ∧
        ∀ q' : ListRequest, q'.pageToken = some token →
          (∀ t, s.committed = some t → q'.asQuery.Served later.policy t) →
          ∃ page', (later.list q' s).outcome = .ok page' := by
  obtain ⟨history, committed, written⟩ := exists_made service closed₀ empty calls
  have stored : s.committed = some (applyAll history []) := same.trans committed
  have wellFormed := WellFormed.nil.applyAll history
  have rejects : ∀ (q : ListRequest) token e, q.pageToken = some token → token ≠ "" →
    Cursor.ofToken token = .error e →
      (later.list q s).outcome = .error (.http (.badToken e)) :=
    fun q token e given nonempty unread =>
      list_rejected closed (readToken_eq_error_iff.2 ⟨token, given, nonempty, unread⟩)
  refine ⟨fun q served => ⟨⟨?_, ?_⟩, ?_⟩, fun id now => ?_,
    fun q now => upsert_outcome q now closed healthy stored wellFormed,
    fun q => search_outcome q closed healthy stored wellFormed,
    fun q page token answered next => ?_⟩
  · rintro ⟨e, refused⟩
    cases read : readToken q.pageToken with
    | ok after =>
      obtain ⟨page, answered⟩ := list_accepted closed healthy stored wellFormed
        (served _ stored) read
      rw [refused] at answered
      cases answered
    | error rejected =>
      obtain ⟨token, given, nonempty, unread⟩ := readToken_eq_error_iff.1 read
      exact ⟨token, rejected, given, nonempty, unread⟩
  · rintro ⟨token, e, given, nonempty, unread⟩
    exact ⟨_, rejects q token e given nonempty unread⟩
  · intro token e given nonempty unread
    exact ⟨.badToken e, rejects q token e given nonempty unread, rfl, rfl⟩
  · have missing : (applyAll history []).rowsOf id.text = [] ↔ ¬ Wrote service s₀ calls id := by
      rw [rowsOf_applyAll_eq_nil_iff, ← written id, not_not]
      exact and_iff_right rfl
    rw [delete_outcome id now closed healthy stored, ← missing]
    by_cases none : (applyAll history []).rowsOf id.text = []
    · rw [if_pos none]
      refine ⟨⟨fun _ => none, fun _ => ⟨_, rfl⟩⟩, ?_⟩
      rintro _ ⟨⟩
      exact ⟨.userNotFound, rfl, rfl⟩
    · rw [if_neg none]
      refine ⟨⟨?_, fun contrary => absurd contrary none⟩, nofun⟩
      rintro ⟨e, ⟨⟩⟩
  · obtain ⟨nonempty, cursor, read⟩ := token_of_answered closed₀ answered next
    refine ⟨⟨cursor, read⟩, fun q' given served => ?_⟩
    have accepted : readToken q'.pageToken = .ok (some cursor) := by
      rw [given, readToken_some nonempty, read]
      rfl
    exact list_accepted closed healthy stored wellFormed (served _ stored) accepted

/-- One user was written and listed: a token of another version is a bad request, a user who was not
written is not found, and the token of the list is no failure. -/
theorem calls_on_healthy_store_listed :
    let ada : UserId := ⟨.oidc, "ada", by decide⟩
    let grace : UserId := ⟨.oidc, "grace", by decide⟩
    let person : UpsertRequest := ⟨ada, "Ada", none, .human, .createEndpoint⟩
    let first : Instant := ⟨7, by decide, by decide⟩
    let row : Row := ⟨"oidc~ada", "Ada", none, "create-endpoint", "human", first, none, none⟩
    let service : Service := ⟨{}⟩
    let s : Session := { committed := some [row] }
    s.Healthy ∧ s.committed = (service.run [.upsert person first, .list {}] {}).committed ∧
    (∃ h : HttpError, (service.list { pageToken := some "MiYwJng" } s).outcome = .error (.http h) ∧
      h.status = 400 ∧
      h.detail = "Unsupported pagination token version: '2'") ∧
    (∃ e, (delete grace (some first) s).outcome = .error e) ∧
    ¬ ∃ e, (service.list { pageToken := some "MSY3Jm9pZGN-YWRh" } s).outcome = .error e := by
  intro ada grace person first row service s
  have healthy : s.Healthy := ⟨.inl rfl, rfl⟩
  have same : s.committed = (service.run [.upsert person first, .list {}] {}).committed := by
    decide +kernel
  obtain ⟨lists, deletions, -⟩ :=
    calls_on_healthy_store service service {} rfl rfl _ rfl healthy same
  have served : ∀ (q : ListRequest), q.filterIds = none → q.filterName = none → q.pageSize = none →
      ∀ t, s.committed = some t → q.asQuery.Served service.policy t := by
    intro q idless unnamed sizeless t _
    refine ListQuery.served_of_fits ?_ ?_ t
    · simp only [ListRequest.asQuery, sizeless]
      decide
    · exact Filter.fits_of_few (by simp [ListRequest.asQuery, idless, maxValues])
        (by simp [ListRequest.asQuery, unnamed])
  refine ⟨healthy, same, ?_, ?_, ?_⟩
  · have unread : Cursor.ofToken "MiYwJng" = .error (.unsupportedVersion "2") := by rfl
    obtain ⟨h, refused, status, detail⟩ :=
      (lists { pageToken := some "MiYwJng" } (served _ rfl rfl rfl)).2 "MiYwJng" _ rfl
        (by decide) unread
    exact ⟨h, refused, status, detail.trans (by decide +kernel)⟩
  · refine (deletions grace _).1.2 ?_
    rintro ⟨q, now, reply, ⟨before, after, split, -⟩, named⟩
    have member : Call.upsert q now ∈ [Call.upsert person first, .list {}] := by
      rw [split]
      exact List.mem_append_right _ List.mem_cons_self
    obtain ⟨rfl, -⟩ : q = person ∧ now = first := by simpa using member
    exact absurd named (by decide)
  · rintro ⟨e, refused⟩
    obtain ⟨token, rejected, given, -, unread⟩ :=
      (lists { pageToken := some "MSY3Jm9pZGN-YWRh" } (served _ rfl rfl rfl)).1.1 ⟨e, refused⟩
    obtain rfl := Option.some.inj given
    have read : Cursor.ofToken "MSY3Jm9pZGN-YWRh" = .ok ⟨first, "oidc~ada"⟩ := by rfl
    rw [read] at unread
    cases unread

end Service

end UserDirectory
