import UserDirectory.Proofs.Directory.Operation
import UserDirectory.Proofs.Directory.Transcript

/-!
# What is left of an erased user

Two runs that write one user under different names and addresses have tables that differ in nothing
else, whatever else is done. When the user is erased the tables become the same. From then on the
runs cannot be told apart, so no later answer depends on what the user was called before.
-/
namespace UserDirectory.Directory

open Store Paging Time UserDirectory.Action

/-! ## What may differ -/

/-- The same row, or one with the id and another name and address. -/
inductive AlikeRows (id : String) (row : Row) : Row → Prop
  | same : AlikeRows id row row
  | renamed (about : row.id = id) (name : String) (email : Option String) : AlikeRows id row
      { row with name, email }

/-- The same write, or one of the user with another name and address. -/
inductive AlikeWrites (x : UserId) (w : Write) : Write → Prop
  | same : AlikeWrites x w w
  | renamed (about : w.id = x) (name email : Option String) (named : name.isSome = w.name.isSome) :
    AlikeWrites x w { w with name, email }

inductive AlikeOperations (x : UserId) : Operation → Operation → Prop
  | same (o : Operation) : AlikeOperations x o o
  | renamed {w w' : Write} (alike : AlikeWrites x w w') (now : Instant) :
    AlikeOperations x (.edit (.write w now)) (.edit (.write w' now))

/-- The same sessions but for rows that are alike. -/
structure AlikeSessions (id : String) (s s' : Session) : Prop where
  dialect : s'.dialect = s.dialect
  outages : s'.outages = s.outages
  committed : Option.Rel (List.Forall₂ (AlikeRows id)) s.committed s'.committed
  transaction : Option.Rel (Option.Rel (List.Forall₂ (AlikeRows id))) s.transaction s'.transaction

/-! ## Tables with rows that are alike -/

section Tables

variable {x : UserId} {id : String} {row row' : Row} {t t' : Table}

theorem AlikeRows.id_eq (h : AlikeRows id row row') : row'.id = row.id := by cases h <;> rfl

theorem AlikeRows.erased_eq (h : AlikeRows id row row') (now : Instant) :
    row.erased now = row'.erased now := by
  cases h <;> rfl

theorem AlikeRows.eq_of_ne (h : AlikeRows id row row') (other : row.id ≠ id) : row = row' := by
  cases h with
  | same => rfl
  | renamed about name email => exact absurd about other

theorem alike_refl (t : Table) : List.Forall₂ (AlikeRows id) t t :=
  List.forall₂_same.2 fun _ _ => .same

theorem alike_rowsOf (h : List.Forall₂ (AlikeRows id) t t') (y : String) :
    List.Forall₂ (AlikeRows id) (t.rowsOf y) (t'.rowsOf y) := by
  refine List.rel_filter ?_ h
  intro row row' alike
  simp [alike.id_eq]

theorem alike_rowsOf_nil (h : List.Forall₂ (AlikeRows id) t t') (y : String) :
    t.rowsOf y = [] ↔ t'.rowsOf y = [] := by
  rw [← List.length_eq_zero_iff, (alike_rowsOf h y).length_eq, List.length_eq_zero_iff]

theorem forall₂_modify {P : Row → Row → Prop} (h : List.Forall₂ (AlikeRows id) t t') {y : String}
    {f f' : Row → Row}
    (changed : ∀ row row', AlikeRows id row row' → row.id = y → P (f row) (f' row'))
    (others : ∀ row row', AlikeRows id row row' → row.id ≠ y → P row row') :
    List.Forall₂ P (t.modify y f) (t'.modify y f') := by
  refine List.rel_map ?_ h
  intro row row' alike
  show P (if row.id = y then f row else row) (if row'.id = y then f' row' else row')
  rw [alike.id_eq]
  split
  · rename_i same
    exact changed row row' alike same
  · rename_i other
    exact others row row' alike other

/-- Erasing the user leaves nothing that differs. -/
theorem modify_erased_eq (h : List.Forall₂ (AlikeRows id) t t') (now : Instant) :
    t.modify id (·.erased now) = t'.modify id (·.erased now) := by
  rw [← List.forall₂_eq_eq_eq]
  exact forall₂_modify h (fun _ _ alike _ => alike.erased_eq now) fun _ _ alike => alike.eq_of_ne

/-! ## Writes that are alike -/

variable {w w' : Write}

theorem AlikeWrites.id_eq (h : AlikeWrites x w w') : w'.id = w.id := by cases h <;> rfl

theorem AlikeWrites.nameless (h : AlikeWrites x w w') (nameless : w.name = none) :
    w'.name = none := by
  cases h with
  | same => exact nameless
  | renamed about name email named => simpa [nameless] using named

theorem AlikeWrites.named {name : String} (h : AlikeWrites x w w') (named : w.name = some name) :
    ∃ name', w'.name = some name' := by
  cases h with
  | same => exact ⟨name, named⟩
  | renamed about name' email together =>
    exact Option.isSome_iff_exists.1 (by simp [together, named])

theorem AlikeWrites.created {name name' : String} (h : AlikeWrites x w w')
    (named : w.name = some name) (named' : w'.name = some name') (now : Instant) :
    AlikeRows x.text (User.row (w.user name now none) none)
      (User.row (w'.user name' now none) none) := by
  cases h with
  | same =>
    obtain rfl := Option.some.inj (named.symm.trans named')
    exact .same
  | renamed about _ email _ => exact .renamed (congrArg UserId.text about) name' email

theorem AlikeWrites.overwritten {name name' : String} (h : AlikeWrites x w w')
    (named : w.name = some name) (named' : w'.name = some name') (now : Instant)
    (alike : AlikeRows x.text row row') (about : row.id = w.id.text) :
    AlikeRows x.text (row.overwritten name w.change now)
      (row'.overwritten name' w'.change now) := by
  -- Nothing is left of the name and the address that the row had.
  have forgets : row'.overwritten name' w'.change now = row.overwritten name' w'.change now := by
    cases alike <;> rfl
  rw [forgets]
  cases h with
  | same =>
    obtain rfl := Option.some.inj (named.symm.trans named')
    exact .same
  | renamed is _ email _ =>
    have written : (row.overwritten name w.change now).id = x.text :=
      about.trans (congrArg UserId.text is)
    exact .renamed written name' email

theorem AlikeWrites.modified {name name' : String} (h : AlikeWrites x w w')
    (named : w.name = some name) (named' : w'.name = some name') (now : Instant)
    (tables : List.Forall₂ (AlikeRows x.text) t t') :
    List.Forall₂ (AlikeRows x.text) (t.modify w.id.text (·.overwritten name w.change now))
      (t'.modify w.id.text (·.overwritten name' w'.change now)) :=
  forall₂_modify tables (fun _ _ rows about => h.overwritten named named' now rows about)
    fun _ _ rows _ => rows

end Tables

/-! ## Statements on them -/

/-- On alike tables the statements answer alike, or are refused for one reason, and leave alike
tables. -/
def Alongside {α α' : Type} (id : String) (P : α → α' → Prop) (stmt : Statement α)
    (stmt' : Statement α') : Prop :=
  ∀ t t' : Table, List.Forall₂ (AlikeRows id) t t' →
    Matched (fun r r' => P r.1 r'.1 ∧ List.Forall₂ (AlikeRows id) r.2 r'.2) (stmt t) (stmt' t')

section Statements

variable {x : UserId} {w w' : Write}

theorem insertNew_alongside (alike : AlikeWrites x w w') (now : Instant) :
    Alongside x.text (Option.Rel (AlikeRows x.text)) (insertNew w.id.text w.change now)
      (insertNew w'.id.text w'.change now) := by
  intro t t' tables
  cases named : w.name with
  | none =>
    rw [insertNew_nameless named, insertNew_nameless (alike.nameless named)]
    exact .error _
  | some name =>
    obtain ⟨name', named'⟩ := alike.named named
    have free := alike_rowsOf_nil tables w.id.text
    by_cases fresh : t.rowsOf w.id.text = []
    · have fresh' : t'.rowsOf w'.id.text = [] := alike.id_eq ▸ free.1 fresh
      rw [insertNew_fresh named now fresh, insertNew_fresh named' now fresh']
      have created := alike.created named named' now
      exact .ok ⟨.some created, List.rel_append tables (.cons created .nil)⟩
    · have taken' : t'.rowsOf w'.id.text ≠ [] := alike.id_eq ▸ mt free.2 fresh
      rw [insertNew_taken named now fresh, insertNew_taken named' now taken']
      exact .ok ⟨.none, tables⟩

theorem overwrite_nameless {w : Write} (nameless : w.name = none) (now : Instant) (t : Table) :
    overwrite w.id.text w.change now t = if t.rowsOf w.id.text = [] then .ok ([], t)
      else .error .missingName := by
  by_cases missing : t.rowsOf w.id.text = []
  · simp [overwrite, Write.change, nameless, missing, any_id_eq_false_iff.2 missing]
  · have found : t.any (·.id == w.id.text) = true := by simpa [← any_id_eq_false_iff] using missing
    simp only [overwrite, Write.change, nameless, found, if_neg missing, if_true]

theorem overwrite_alongside (alike : AlikeWrites x w w') (now : Instant) :
    Alongside x.text (List.Forall₂ (AlikeRows x.text)) (overwrite w.id.text w.change now)
      (overwrite w'.id.text w'.change now) := by
  intro t t' tables
  cases named : w.name with
  | none =>
    rw [overwrite_nameless named, overwrite_nameless (alike.nameless named), alike.id_eq]
    simp only [alike_rowsOf_nil tables]
    split
    · exact .ok ⟨.nil, tables⟩
    · exact .error _
  | some name =>
    obtain ⟨name', named'⟩ := alike.named named
    rw [overwrite_named named now, overwrite_named named' now, alike.id_eq]
    have tables' := alike.modified named named' now tables
    have rows' := alike_rowsOf tables' w.id.text
    rw [rowsOf_modify fun row => row.id_overwritten name w.change now,
      rowsOf_modify fun row => row.id_overwritten name' w'.change now, if_pos rfl, if_pos rfl]
      at rows'
    exact .ok ⟨rows', tables'⟩

theorem run_alongside (alike : AlikeWrites x w w') (now : Instant) :
    Alongside x.text (SameWrite (AlikeRows x.text)) (w.statement now).run
      (w'.statement now).run := by
  intro t t' tables
  cases named : w.name with
  | none =>
    rw [run_nameless named, run_nameless (alike.nameless named)]
    exact .error _
  | some name =>
    obtain ⟨name', named'⟩ := alike.named named
    have written := alike_rowsOf tables w.id.text
    generalize rows : t.rowsOf w.id.text = stored at written
    generalize rows' : t'.rowsOf w.id.text = stored' at written
    rw [← alike.id_eq] at rows'
    cases written with
    | nil =>
      rw [run_fresh named now rows, run_fresh named' now rows']
      have created := alike.created named named' now
      exact .ok ⟨⟨rfl, created⟩, List.rel_append tables (.cons created .nil)⟩
    | cons first more =>
      cases more with
      | nil =>
        rw [run_only named now rows, run_only named' now rows', alike.id_eq]
        have about := (mem_rowsOf.1 (rows ▸ List.mem_singleton.2 rfl)).2
        exact .ok ⟨⟨rfl, alike.overwritten named named' now first about⟩,
          alike.modified named named' now tables⟩
      | cons second rest =>
        rw [run_several named now rows, run_several named' now rows']
        exact .error _

theorem erase_alongside (y : UserId) (now : Instant) :
    Alongside x.text Eq (Store.erase y.text now) (Store.erase y.text now) := by
  intro t t' tables
  refine .ok ⟨(alike_rowsOf tables y.text).length_eq,
    forall₂_modify tables ?_ fun _ _ rows _ => rows⟩
  intro row row' rows _
  exact rows.erased_eq now ▸ .same

end Statements

/-! ## Sessions before the erasure -/

namespace AlikeSessions

variable {id : String} {s s' : Session}

theorem refl (s : Session) : AlikeSessions id s s := by
  have contents : ∀ c : Contents, Option.Rel (List.Forall₂ (AlikeRows id)) c c := by
    rintro (_ | t)
    · exact .none
    · exact .some (alike_refl t)
  refine ⟨rfl, rfl, contents _, ?_⟩
  cases s.transaction with
  | none => exact .none
  | some c => exact .some (contents c)

theorem view (h : AlikeSessions id s s') :
    Option.Rel (List.Forall₂ (AlikeRows id)) s.view s'.view := by
  obtain ⟨-, -, committed, transaction⟩ := h
  unfold Session.view
  generalize s.transaction = own at transaction
  generalize s'.transaction = own' at transaction
  cases transaction with
  | none => exact committed
  | some contents => exact contents

theorem bracketed : Coupled.Bracketed (AlikeSessions id) where
  inTransaction := by
    rintro s s' ⟨-, -, -, transaction⟩
    unfold Session.inTransaction
    generalize s.transaction = own at transaction
    generalize s'.transaction = own' at transaction
    cases transaction <;> rfl
  opened h := ⟨h.dialect, h.outages, h.committed, .some h.view⟩
  commit h := ⟨h.dialect, h.outages, h.view, .none⟩
  rollback h := ⟨h.dialect, h.outages, h.committed, .none⟩

/-- The session after a statement sees what the statement leaves. -/
theorem execute {α α' : Type} {P : α → α' → Prop} {stmt : Statement α} {stmt' : Statement α'}
    {failure : Refusal → Error} (alongside : Alongside id P stmt stmt') :
    Coupled (AlikeSessions id) P (Action.execute failure stmt) (Action.execute failure stmt') := by
  refine .execute ?_
  intro s s' h
  simp only [Session.execute, h.outages]
  split
  · exact ⟨.error _, h.dialect, rfl, h.committed, .some h.view⟩
  · have views := h.view
    generalize s.view = c at views
    generalize s'.view = c' at views
    cases views with
    | none => exact ⟨.error _, h.dialect, rfl, h.committed, .some .none⟩
    | some tables =>
      rename_i t t'
      have ran := alongside t t' tables
      simp only [Session.answer]
      generalize stmt t = r at ran
      generalize stmt' t' = r' at ran
      cases ran with
      | ok related => exact ⟨.ok related.1, h.dialect, rfl, h.committed, .some (.some related.2)⟩
      | error e => exact ⟨.error e, h.dialect, rfl, h.committed, .some (.some tables)⟩

end AlikeSessions

section Before

variable {x : UserId} {s s' : Session}

theorem write_alike {w w' : Write} (alike : AlikeWrites x w w') (now : Instant)
    (h : AlikeSessions x.text s s') :
    AlikeSessions x.text (write w now s).session (write w' now s').session := by
  have still : ∀ r : Bool × Row, (readOutcome r.1 r.2).Still := fun r => readOutcome_still r.1 r.2
  cases speaks : s.dialect with
  | other name =>
    simp only [write, writeVia, h.dialect, speaks]
    exact h
  | sqlite =>
    simp only [write, writeVia, h.dialect, speaks]
    rw [Coupled.session_bind still, Coupled.session_bind still]
    have coupled := insertOrOverwrite_coupled (.inTransaction AlikeSessions.bracketed)
      (AlikeSessions.execute (insertNew_alongside alike now))
        (AlikeSessions.execute (overwrite_alongside alike now))
    exact (coupled s s' h).2
  | postgresql =>
    simp only [write, writeVia, h.dialect, speaks]
    rw [Coupled.session_bind still, Coupled.session_bind still]
    exact (AlikeSessions.execute (run_alongside alike now) s s' h).2

/-- The session after a statement that reads. -/
def afterRead (s : Session) : Session := Session.opened { s with outages := s.outages.tail }

theorem AlikeSessions.afterRead (h : AlikeSessions x.text s s') :
    AlikeSessions x.text (afterRead s) (Directory.afterRead s') :=
  ⟨h.dialect, congrArg List.tail h.outages, h.committed, .some h.view⟩

theorem execute_read {α : Type} {stmt : Statement α}
    (reads : ∀ t a t', stmt t = .ok (a, t') → t' = t) (failure : Refusal → Error) (s : Session) :
    (Action.execute failure stmt s).session = afterRead s := by
  simp only [Action.execute, Session.execute]
  split
  · rfl
  · show _ = Session.mk s.committed (some s.view) s.dialect s.outages.tail
    cases s.view with
    | none => rfl
    | some t =>
      cases ran : stmt t with
      | error e => simp only [Session.answer, ran]
      | ok done => simp only [Session.answer, ran, reads t done.1 done.2 ran]

/-- A list leaves the session as it is if the token is refused, and else as a statement that reads
leaves it. -/
theorem list_session (policy : Policy) (q : ListQuery) :
    (∀ s, (list policy q s).session = s) ∨ ∀ s, (list policy q s).session = afterRead s := by
  cases read : (readToken q.token).mapError Error.token with
  | error e =>
    refine .inl fun s => ?_
    simp only [list, read]
    rfl
  | ok after =>
    refine .inr fun s => ?_
    have given : (Action.ofExcept (.ok after : Except Error (Option Cursor)) s).outcome =
      .ok after := rfl
    simp only [list, read]
    rw [bind_of_ok given]
    exact (Coupled.session_bind listed_still s).trans
      (execute_read (fun _ _ _ read => (page_eq_ok read).1) _ s)

theorem search_session (term : String) {s : Session} (known : ∀ name, s.dialect ≠ .other name) :
    (search term s).session = afterRead s := by
  rw [search_of_known known]
  refine (Coupled.session_bind readFoundUsers_still s).trans (execute_read ?_ _ s)
  rintro t rows t' ⟨⟩
  rfl

/-- Operations that are alike keep sessions alike. -/
theorem run_alike {o o' : Operation} (alike : AlikeOperations x o o')
    (h : AlikeSessions x.text s s') :
    AlikeSessions x.text (o.run s).2 (o'.run s').2 := by
  cases alike with
  | renamed alike now => exact write_alike alike now h
  | same =>
    match o with
    | .edit (.write w now) => exact write_alike .same now h
    | .edit (.erase y now) =>
      exact (erase_coupled (AlikeSessions.execute (erase_alongside y now)) s s' h).2
    | .list policy q =>
      rcases list_session policy q with stays | reads
      · simpa only [Operation.run, stays] using h
      · simpa only [Operation.run, reads] using h.afterRead
    | .search term =>
      by_cases unknown : ∃ name, s.dialect = .other name
      · obtain ⟨name, other⟩ := unknown
        simpa only [Operation.run, search_of_other other, search_of_other (h.dialect.trans other),
          fail_apply] using h
      · have known : ∀ name, s.dialect ≠ .other name := not_exists.1 unknown
        have known' : ∀ name, s'.dialect ≠ .other name := h.dialect ▸ known
        simpa only [Operation.run, search_session term known, search_session term known']
          using h.afterRead
    | .commit => exact AlikeSessions.bracketed.commit h

theorem transcript_alike {os os' : List Operation} (alike : List.Forall₂ (AlikeOperations x) os os')
    (h : AlikeSessions x.text s s') :
    AlikeSessions x.text (transcript os s).2 (transcript os' s').2 := by
  induction alike generalizing s s' with
  | nil => exact h
  | cons first _ ih => exact ih (run_alike first h)

end Before

/-! ## Sessions from the erasure on -/

/-- Sessions in transactions that see the same, whatever is committed. -/
structure SameInside (s s' : Session) : Prop where
  dialect : s'.dialect = s.dialect
  outages : s'.outages = s.outages
  inside : s.inTransaction = true
  inside' : s'.inTransaction = true
  view : s'.view = s.view

theorem execute_same {α : Type} (failure : Refusal → Error) (stmt : Statement α) :
    Coupled SameInside Eq (Action.execute failure stmt) (Action.execute failure stmt) := by
  refine .execute ?_
  intro s s' h
  simp only [Session.execute, h.outages, h.view]
  split
  · exact ⟨.refl _, h.dialect, rfl, rfl, rfl, h.view⟩
  · exact ⟨.refl _, h.dialect, rfl, rfl, rfl, rfl⟩

theorem write_same (w : Write) (now : Instant) :
    Coupled SameInside Eq (write w now) (write w now) := by
  intro s s' h
  have read : ∀ r r' : Bool × Row, SameWrite Eq r r' →
      Coupled SameInside Eq (readOutcome r.1 r.2) (readOutcome r'.1 r'.2) := by
    rintro r r' ⟨created, row⟩
    rw [created, row]
    exact .of_still (readOutcome_still r'.1 r'.2)
  cases speaks : s.dialect with
  | other name =>
    simp only [write, writeVia, h.dialect, speaks]
    exact ⟨.error _, h⟩
  | sqlite =>
    have row : ∀ r r' : Option Row, r = r' → Option.Rel Eq r r' := by
      rintro (_ | row) _ rfl
      · exact .none
      · exact .some rfl
    have rows : ∀ l l' : List Row, l = l' → List.Forall₂ Eq l l' :=
      fun l _ same => same ▸ List.forall₂_refl l
    have inserted := (execute_same writeFailure (insertNew w.id.text w.change now)).mono row
    have overwritten := (execute_same writeFailure (overwrite w.id.text w.change now)).mono rows
    have joined :=
      insertOrOverwrite_coupled (.inTransaction_inside fun _ _ same => ⟨same.inside, same.inside'⟩)
      inserted overwritten
    simp only [write, writeVia, h.dialect, speaks]
    exact (joined.bind read) s s' h
  | postgresql =>
    have written : ∀ r r' : Bool × Row, r = r' → SameWrite Eq r r' :=
      fun _ _ same => same ▸ ⟨rfl, rfl⟩
    have ran := (execute_same writeFailure (w.statement now).run).mono written
    simp only [write, writeVia, h.dialect, speaks]
    exact (ran.bind read) s s' h

/-- The two runs, once they are the same in an open transaction or throughout. -/
theorem same_indistinct : Indistinct fun s s' => s = s' ∨ SameInside s s' where
  speaks := by
    rintro s s' (rfl | h) name
    · exact Iff.rfl
    · rw [h.dialect]
  write w now := (write_same w now).or_eq
  erase _ _ := (execute_same _ _).or_eq
  page _ := (execute_same _ _).or_eq
  nearest _ := (execute_same _ _).or_eq
  commit := by
    rintro s s' (rfl | h)
    · exact .inl rfl
    · refine .inl ?_
      simp only [Session.commit, h.dialect, h.outages, h.view]

/-! ## The erasure -/

section Erasure

variable {x : UserId} {s s' : Session}

/-- An erasure that is answered leaves a transaction that sees the erased table. -/
theorem erase_eq_ok {now : Instant} {found : Bool}
    (answered : (erase x now s).outcome = .ok found) :
    ∃ t, s.view = some t ∧ (erase x now s).session =
      { s with
        outages := s.outages.tail
        transaction := some (some (t.modify x.text (·.erased now))) } := by
  have session : (erase x now s).session =
      (Action.execute (fun _ => Error.store .erase) (Store.erase x.text now) s).session :=
    Coupled.session_bind (fun _ => .bind (.note _) fun _ => .pure _) s
  obtain ⟨count, erased, -⟩ := bind_eq_ok answered
  obtain ⟨t, t', sees, changed, after⟩ := execute_eq_ok erased
  cases changed
  exact ⟨t, sees, session.trans after⟩

/-- An erasure has one outcome on alike sessions. Once it is answered they see the same. -/
theorem erase_same (now : Instant) (h : AlikeSessions x.text s s') :
    (erase x now s).outcome = (erase x now s').outcome ∧
      ∀ found, (erase x now s).outcome = .ok found →
        SameInside (erase x now s).session (erase x now s').session := by
  obtain ⟨outcomes, -⟩ := erase_coupled (AlikeSessions.execute (erase_alongside x now)) s s' h
  refine ⟨outcomes.eq, fun found answered => ?_⟩
  obtain ⟨t, sees, session⟩ := erase_eq_ok answered
  obtain ⟨t', sees', session'⟩ := erase_eq_ok (outcomes.eq ▸ answered)
  have views := h.view
  rw [sees, sees'] at views
  cases views with
  | some tables =>
    rw [session, session', modify_erased_eq tables]
    exact ⟨h.dialect, congrArg List.tail h.outages, rfl, rfl, rfl⟩

/-- Two runs from one session that are alike but for the names and addresses in writes of a user
answer an erasure of this user alike. If it is answered they see one table from then on, and answer
alike whatever is done. -/
theorem erased_leaves_no_trace (x : UserId) (now : Instant) (s : Session)
    {before before' : List Operation} (alike : List.Forall₂ (AlikeOperations x) before before') :
    let r := erase x now (transcript before s).2
    let r' := erase x now (transcript before' s).2
    r.outcome = r'.outcome ∧ ∀ found, r.outcome = .ok found → r.session.view = r'.session.view ∧
      ∀ later : List Operation, (transcript later r.session).1 = (transcript later r'.session).1 ∧
        (transcript later r.session).2.view = (transcript later r'.session).2.view := by
  intro r r'
  obtain ⟨outcome, joined⟩ := erase_same now (transcript_alike alike (AlikeSessions.refl s))
  refine ⟨outcome, fun found answered => ?_⟩
  have same := joined found answered
  refine ⟨same.view.symm, fun later => ?_⟩
  obtain ⟨answers, last⟩ := same_indistinct.transcript_eq later (.inr same)
  refine ⟨answers, ?_⟩
  rcases last with equal | inside
  · rw [equal]
  · exact inside.view.symm

/-- A user was written under one name or another, and committed. After the erasure a search finds
the same, and the user comes back the same. -/
theorem erased_leaves_no_trace_renamed :
    let id : UserId := ⟨.oidc, "ada", by decide⟩
    let first : Instant := ⟨7, by decide, by decide⟩
    let second : Instant := ⟨8, by decide, by decide⟩
    let third : Instant := ⟨9, by decide, by decide⟩
    let ada : Write := ⟨id, some "Ada", some "ada@example.org", .human, .createEndpoint⟩
    let countess : Write := { ada with name := some "Countess", email := none }
    let before := (transcript [.edit (.write ada first), .commit] {}).2
    let before' := (transcript [.edit (.write countess first), .commit] {}).2
    let r := erase id second before
    let r' := erase id second before'
    before.view ≠ before'.view ∧ r.outcome = .ok true ∧ r'.outcome = .ok true ∧
    (transcript [.search "Ada"] r.session).1 = (transcript [.search "Ada"] r'.session).1 ∧
    (transcript [.commit, .edit (.write ada third)] r'.session).1 =
      [.committed, .written (.ok (.updated (ada.user "Ada" first (some third))))] := by
  intro id first second third ada countess before before' r r'
  have renamed : AlikeWrites id ada countess := .renamed (w := ada) rfl (some "Countess") none rfl
  have alike : List.Forall₂ (AlikeOperations id) [.edit (.write ada first), .commit]
      [.edit (.write countess first), .commit] :=
        .cons (.renamed renamed first) (.cons (.same .commit) .nil)
  obtain ⟨outcome, joined⟩ := erased_leaves_no_trace id second {} alike
  have answered : r.outcome = .ok true := by decide +kernel
  obtain ⟨-, later⟩ := joined true answered
  refine ⟨by decide +kernel, answered, outcome.symm.trans answered, (later _).1,
    (later _).1.symm.trans ?_⟩
  decide +kernel

end Erasure

end UserDirectory.Directory
