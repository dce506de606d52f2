import Mathlib.Logic.Function.Basic
import UserDirectory.Proofs.Directory.History

/-!
# Edits in flight

A write is two statements where the store has no single one for it, so the statements of other edits
may come between them. Whatever the order, the table is that of the edits one after the other, each
at the place of the statement that carried it out. For no statement removes a row, so a write that
found one finds it again.
-/
namespace UserDirectory.Directory

open Store Time

/-! ## Statements in any order -/

/-- How far an edit has come. A write that has found a row with its id still has to overwrite it. -/
inductive Progress
  | waiting
  | conflicted
  | created (row : Row)
  | updated (row : Row)
  | erased (found : Bool)
  | failed

namespace Progress

/-- What the answer to the insertion leads to. -/
def ofInserted : Option Row → Progress
  | some row => .created row
  | none => .conflicted

/-- What the answer to the overwriting leads to, which must be one row. -/
def ofOverwritten : List Row → Progress
  | [row] => .updated row
  | _ => .failed

/-- Has the edit been carried out? -/
def isDone : Progress → Bool
  | .created _ | .updated _ | .erased _ => true
  | .waiting | .conflicted | .failed => false

end Progress

/-- The next statement of an edit and what its answer leads to, if there is one left. -/
def Edit.statement? : Edit → Progress → Option (Statement Progress)
  | .write w now, .waiting =>
    some fun t => (insertNew w.id.text w.change now t).map fun (answer, t') =>
      (.ofInserted answer, t')
  | .write w now, .conflicted =>
    some fun t => (overwrite w.id.text w.change now t).map fun (answer, t') =>
      (.ofOverwritten answer, t')
  | .erase id now, .waiting =>
    some fun t => (Store.erase id.text now t).map fun (count, t') => (.erased (0 < count), t')
  | _, _ => none

/-- The table, how far each edit has come, and the edits that were carried out, in the order of the
statements that did it. -/
structure Scene (ι : Type) where
  table : Table
  progress : ι → Progress := fun _ => .waiting
  log : List ι := []

namespace Scene

variable {ι : Type} [DecidableEq ι]

/-- One edit runs its next statement. A refused statement ends the edit. -/
def step (edits : ι → Edit) (s : Scene ι) (i : ι) : Scene ι :=
  match (edits i).statement? (s.progress i) with
  | none => s
  | some stmt =>
    match stmt s.table with
    | .ok (p, t) => ⟨t, Function.update s.progress i p, if p.isDone then s.log ++ [i] else s.log⟩
    | .error _ => { s with progress := Function.update s.progress i .failed }

/-- Runs the next statements of edits in a given order. -/
def run (edits : ι → Edit) (schedule : List ι) (s : Scene ι) : Scene ι :=
  schedule.foldl (step edits) s

/-- The first edit that was carried out of those that write an id. -/
def firstWriter? (edits : ι → Edit) (s : Scene ι) (x : UserId) : Option ι :=
  s.log.find? fun i => ((edits i).upsertOf? x).isSome

end Scene

variable {ι : Type} {edits : ι → Edit} {t : Table} {s : Scene ι} {i j : ι} {x : UserId}

/-! ## Where an edit stands -/

/-- Why an edit is where it is in a scene that began with a table. A write is the creation of its
row if the table had none and no other write was carried out before. The row it created is still
where it was put. -/
inductive Stands (edits : ι → Edit) (t : Table) (s : Scene ι) (i : ι) : Progress → Prop
  | waiting : Stands edits t s i .waiting
  | conflicted {w : Write} {now : Instant} {name : String} (is : edits i = .write w now)
      (named : w.name = some name)
      (taken : s.table.rowsOf w.id.text ≠ []) : Stands edits t s i .conflicted
  | created {w : Write} {now : Instant} {name : String} (is : edits i = .write w now)
      (named : w.name = some name)
      (fresh : t.rowsOf w.id.text = []) (first : s.firstWriter? edits w.id = some i)
      (kept : Keeps [User.row (w.user name now none) none] s.table) :
      Stands edits t s i (.created (User.row (w.user name now none) none))
  | updated {w : Write} {now : Instant} {name : String} {row : Row} (is : edits i = .write w now)
      (named : w.name = some name) (later : t.rowsOf w.id.text = [] →
        s.firstWriter? edits w.id ≠ some i) :
      Stands edits t s i (.updated row)
  | erased {id : UserId} {now : Instant} {found : Bool} (is : edits i = .erase id now) :
      Stands edits t s i (.erased found)
  | failed {w : Write} {now : Instant} (is : edits i = .write w now) (nameless : w.name = none) :
      Stands edits t s i .failed

/-- The table is that of the edits that were carried out, and every edit stands where it has to. -/
structure Sound (edits : ι → Edit) (t : Table) (s : Scene ι) : Prop where
  table : s.table = applyAll (s.log.map edits) t
  distinct : s.table.DistinctIds
  done : ∀ i, i ∈ s.log ↔ (s.progress i).isDone = true
  stands : ∀ i, Stands edits t s i (s.progress i)

theorem firstWriter?_eq_none_iff :
    s.firstWriter? edits x = none ↔ upserts x (s.log.map edits) = [] := by
  simp [Scene.firstWriter?, upserts, List.filterMap_eq_nil_iff, List.find?_eq_none]

theorem isSome_of_firstWriter? (first : s.firstWriter? edits x = some i) :
    ((edits i).upsertOf? x).isSome = true :=
  (List.find?_eq_some_iff_append.1 first).1

/-- The rows of an id that the table did not have are there from the first write on. -/
theorem Sound.rowsOf_eq_nil_iff (h : Sound edits t s) (x : UserId) :
    s.table.rowsOf x.text = [] ↔ t.rowsOf x.text = [] ∧ s.firstWriter? edits x = none := by
  rw [h.table, rowsOf_applyAll_eq_nil_iff, firstWriter?_eq_none_iff]

/-- The edit that is carried out next is no other's first write. -/
theorem firstWriter?_concat_of_ne {t' : Table} {progress : ι → Progress} (other : j ≠ i)
    (x : UserId) :
    Scene.firstWriter? edits ⟨t', progress, s.log ++ [i]⟩ x = some j ↔
      s.firstWriter? edits x = some j := by
  simp only [Scene.firstWriter?, List.find?_append, Option.or_eq_some_iff]
  constructor
  · rintro (first | ⟨-, last⟩)
    · exact first
    · exact absurd (List.mem_singleton.1 (List.mem_of_find?_eq_some last)) other
  · exact .inl

/-- The edit that has just been carried out is the first writer of its id if none was before. -/
theorem Sound.firstWriter?_concat (h : Sound edits t s) {w : Write} {now : Instant}
    {name : String} {t' : Table} {progress : ι → Progress} (is : edits i = .write w now)
    (named : w.name = some name) (pending : (s.progress i).isDone = false) :
    Scene.firstWriter? edits ⟨t', progress, s.log ++ [i]⟩ w.id = some i ↔
      s.firstWriter? edits w.id = none := by
  have writes : ((edits i).upsertOf? w.id).isSome = true := by simp [is, Edit.upsertOf?, named]
  have absent : i ∉ s.log := by
    rw [h.done i, pending]
    exact Bool.false_ne_true
  simp only [Scene.firstWriter?, List.find?_append, Option.or_eq_some_iff, List.find?_singleton,
    writes, if_true, and_true]
  constructor
  · rintro (first | none)
    · exact absurd (List.mem_of_find?_eq_some first) absent
    · exact none
  · exact .inr

/-- An edit stands where it stood while the rows stay and no other edit becomes the first writer in
its place. -/
theorem Stands.mono {s' : Scene ι} {p : Progress} (stands : Stands edits t s j p)
    (keeps : Keeps s.table s'.table)
    (first : ∀ x, s'.firstWriter? edits x = some j ↔ s.firstWriter? edits x = some j) :
    Stands edits t s' j p := by
  cases stands with
  | waiting => exact .waiting
  | conflicted is named taken => exact .conflicted is named (keeps.rowsOf_ne_nil taken)
  | created is named fresh isFirst kept =>
    exact .created is named fresh ((first _).2 isFirst) (kept.trans keeps)
  | updated is named later =>
    exact .updated is named fun fresh isFirst => later fresh ((first _).1 isFirst)
  | erased is => exact .erased is
  | failed is nameless => exact .failed is nameless

theorem Sound.start (edits : ι → Edit) (distinct : t.DistinctIds) :
    Sound edits t { table := t } where
  table := rfl
  distinct := distinct
  done := by simp [Progress.isDone]
  stands _ := .waiting

/-! ## What the edits report -/

theorem exists_of_upsertOf?_isSome {e : Edit} (writes : (e.upsertOf? x).isSome = true) :
    ∃ (w : Write) (now : Instant) (name : String), e = .write w now ∧ w.id = x ∧
      w.name = some name := by
  cases e with
  | erase id now => cases writes
  | write w now =>
    by_cases same : w.id = x
    · rw [Edit.upsertOf?, if_pos same, Option.isSome_map] at writes
      obtain ⟨name, named⟩ := Option.isSome_iff_exists.1 writes
      exact ⟨w, now, name, rfl, same, named⟩
    · rw [Edit.upsertOf?, if_neg same] at writes
      cases writes

/-- The first write of an id that the table did not have created the row. -/
theorem Sound.creates (h : Sound edits t s) (fresh : t.rowsOf x.text = [])
    (first : s.firstWriter? edits x = some i) :
    ∃ (w : Write) (now : Instant) (row : Row), edits i = .write w now ∧ w.id = x ∧
      s.progress i = .created row ∧
      Keeps [row] s.table ∧ row.cursor = ⟨now, x.text⟩ := by
  have stands := h.stands i
  have done := (h.done i).1 (List.mem_of_find?_eq_some first)
  obtain ⟨w, now, name, is, rfl, named⟩ := exists_of_upsertOf?_isSome (isSome_of_firstWriter? first)
  generalize reached : s.progress i = p at stands done
  cases stands with
  | waiting | conflicted | failed => simp [Progress.isDone] at done
  | erased isErasure => simp [is] at isErasure
  | @created w' now' name' is' named' freshHere isFirst kept =>
    obtain ⟨rfl, rfl⟩ : w = w' ∧ now = now' := by simpa using is.symm.trans is'
    exact ⟨w, now, _, is, rfl, rfl, kept, rfl⟩
  | updated is' named' later =>
    obtain ⟨rfl, rfl⟩ := Edit.write.inj (is.symm.trans is')
    exact absurd first (later fresh)

/-- A write whose id the table did not have stands between its insertion and its answer, or was
answered. -/
theorem Sound.stands_write (h : Sound edits t s) (fresh : t.rowsOf x.text = [])
    (begun : s.progress j ≠ .waiting)
    (writes : ((edits j).upsertOf? x).isSome = true) : s.firstWriter? edits x ≠ none ∧
      (s.firstWriter? edits x ≠ some j → s.progress j = .conflicted ∨
        ∃ row, s.progress j = .updated row) := by
  have stands := h.stands j
  obtain ⟨w, now, name, is, rfl, named⟩ := exists_of_upsertOf?_isSome writes
  generalize reached : s.progress j = p at stands begun
  cases stands with
  | waiting => exact absurd rfl begun
  | erased isErasure => simp [is] at isErasure
  | failed is' nameless =>
    obtain ⟨rfl, rfl⟩ := Edit.write.inj (is.symm.trans is')
    simp [named] at nameless
  | conflicted is' named' taken =>
    obtain ⟨rfl, rfl⟩ := Edit.write.inj (is.symm.trans is')
    exact ⟨fun none => taken ((h.rowsOf_eq_nil_iff w.id).2 ⟨fresh, none⟩), fun _ => .inl rfl⟩
  | created is' named' freshHere isFirst kept =>
    obtain ⟨rfl, rfl⟩ := Edit.write.inj (is.symm.trans is')
    exact ⟨by simp [isFirst], fun notFirst => absurd isFirst notFirst⟩
  | updated is' named' later =>
    have inLog : j ∈ s.log := (h.done j).2 (by rw [reached]; rfl)
    refine ⟨fun none => ?_, fun _ => .inr ⟨_, rfl⟩⟩
    have unwritten := List.find?_eq_none.1 none j inLog
    exact unwritten writes

/-- Of the writes of an id that the table did not have one has created the row once one has run its
insertion, and the others find it. -/
theorem Sound.exists_creator (h : Sound edits t s) (fresh : t.rowsOf x.text = [])
    (writes : ((edits i).upsertOf? x).isSome = true) (begun : s.progress i ≠ .waiting) :
    ∃ (c : ι) (row : Row), ((edits c).upsertOf? x).isSome = true ∧ s.progress c = .created row ∧
      ∀ j, j ≠ c → ((edits j).upsertOf? x).isSome = true →
        s.progress j = .waiting ∨ s.progress j = .conflicted ∨
          ∃ row, s.progress j = .updated row := by
  obtain ⟨c, first⟩ := Option.ne_none_iff_exists'.1 (h.stands_write fresh begun writes).1
  obtain ⟨w, now, row, is, same, created, -⟩ := h.creates fresh first
  refine ⟨c, row, isSome_of_firstWriter? first, created, ?_⟩
  intro j other writesToo
  by_cases waiting : s.progress j = .waiting
  · exact .inl waiting
  · refine .inr ((h.stands_write fresh waiting writesToo).2 fun isFirst => other ?_)
    exact Option.some.inj (isFirst.symm.trans first)

/-- The row of a creation has the time of the creation. -/
theorem Sound.created_row (h : Sound edits t s) {row : Row}
    (created : s.progress i = .created row) :
    ∃ (w : Write) (now : Instant) (stored : Row), edits i = .write w now ∧ t.rowsOf w.id.text = [] ∧
      s.table.rowsOf w.id.text = [stored] ∧ stored.createdAt = now := by
  have stands := h.stands i
  rw [created] at stands
  cases stands with
  | @created w now name is named fresh first kept =>
    obtain ⟨stored, hstored, place⟩ := kept _ (List.mem_singleton.2 rfl)
    have sameId : stored.id = w.id.text := congrArg Paging.Cursor.id place
    refine ⟨w, now, stored, is, fresh, ?_, congrArg Paging.Cursor.createdAt place⟩
    rw [← sameId]
    exact h.distinct.rowsOf_eq_singleton hstored

/-- A row is where a row of the first table is, or its time is that of the write that created it. -/
theorem Sound.createdAt_row (h : Sound edits t s) {row : Row} (hrow : row ∈ s.table) :
    (∃ old ∈ t, row.cursor = old.cursor) ∨ ∃ (i : ι) (w : Write) (now : Instant)
    (new : Row), edits i = .write w now ∧
      w.id.text = row.id ∧ s.progress i = .created new ∧ row.createdAt = now := by
  have keeps : Keeps t s.table := h.table ▸ .applyAll (s.log.map edits) t
  rcases mem_applyAll (h.table ▸ hrow) with ⟨old, hold, same⟩ | ⟨x, ofUser⟩
  · exact .inl ⟨old, hold, keeps.cursor_eq h.distinct hold hrow same⟩
  by_cases fresh : t.rowsOf x.text = []
  · have taken : s.table.rowsOf x.text ≠ [] := List.ne_nil_of_mem (mem_rowsOf.2 ⟨hrow, ofUser⟩)
    have written : s.firstWriter? edits x ≠ none :=
      fun none => taken ((h.rowsOf_eq_nil_iff x).2 ⟨fresh, none⟩)
    obtain ⟨c, first⟩ := Option.ne_none_iff_exists'.1 written
    obtain ⟨w, now, new, is, rfl, created, -⟩ := h.creates fresh first
    obtain ⟨w', now', stored, is', -, only, sameTime⟩ := h.created_row created
    obtain ⟨rfl, rfl⟩ := Edit.write.inj (is.symm.trans is')
    have isStored : row ∈ s.table.rowsOf w.id.text := mem_rowsOf.2 ⟨hrow, ofUser⟩
    obtain rfl : row = stored := by simpa [only] using isStored
    exact .inr ⟨c, w, now, new, is, ofUser.symm, created, sameTime⟩
  · obtain ⟨old, hold⟩ := List.exists_mem_of_ne_nil _ fresh
    obtain ⟨inTable, named⟩ := mem_rowsOf.1 hold
    exact .inl ⟨old, inTable, keeps.cursor_eq h.distinct inTable hrow (ofUser.trans named.symm)⟩

/-! ## One statement -/

theorem Edit.statement?_write {w : Write} {now : Instant} (is : edits i = .write w now)
    (waiting : s.progress i = .waiting) :
    (edits i).statement? (s.progress i) =
      some fun t => (insertNew w.id.text w.change now t).map fun (answer, t') =>
        (.ofInserted answer, t') := by
  rw [is, waiting]
  rfl

variable [DecidableEq ι]

/-- What one statement does to a scene. -/
inductive Moves (edits : ι → Edit) (s : Scene ι) (i : ι) : Scene ι → Prop
  | stays : Moves edits s i s
  | fails {w : Write} {now : Instant} (is : edits i = .write w now)
      (waiting : s.progress i = .waiting) (nameless : w.name = none) :
      Moves edits s i { s with progress := Function.update s.progress i .failed }
  | conflicts {w : Write} {now : Instant} {name : String} (is : edits i = .write w now)
      (waiting : s.progress i = .waiting) (named : w.name = some name)
      (taken : s.table.rowsOf w.id.text ≠ []) :
      Moves edits s i { s with progress := Function.update s.progress i .conflicted }
  | creates {w : Write} {now : Instant} {name : String} (is : edits i = .write w now)
      (waiting : s.progress i = .waiting) (named : w.name = some name)
      (fresh : s.table.rowsOf w.id.text = []) :
      Moves edits s i ⟨(edits i).apply s.table,
        Function.update s.progress i (.created (User.row (w.user name now none) none)),
        s.log ++ [i]⟩
  | updates {w : Write} {now : Instant} {name : String} (row : Row) (is : edits i = .write w now)
      (conflicted : s.progress i = .conflicted) (named : w.name = some name)
      (taken : s.table.rowsOf w.id.text ≠ []) :
      Moves edits s i ⟨(edits i).apply s.table,
        Function.update s.progress i (.updated row), s.log ++ [i]⟩
  | erases {id : UserId} {now : Instant} (found : Bool) (is : edits i = .erase id now)
      (waiting : s.progress i = .waiting) :
      Moves edits s i ⟨(edits i).apply s.table,
        Function.update s.progress i (.erased found), s.log ++ [i]⟩

theorem Scene.step_of_ok {stmt : Statement Progress} {p : Progress} {t' : Table}
    (next : (edits i).statement? (s.progress i) = some stmt) (ran : stmt s.table = .ok (p, t')) :
    s.step edits i = ⟨t', Function.update s.progress i p,
      if p.isDone then s.log ++ [i] else s.log⟩ := by
  simp only [step, next, ran]

theorem Scene.step_of_error {stmt : Statement Progress} {r : Refusal}
    (next : (edits i).statement? (s.progress i) = some stmt) (refused : stmt s.table = .error r) :
    s.step edits i = { s with progress := Function.update s.progress i .failed } := by
  simp only [step, next, refused]

theorem Scene.step_of_none (ended : (edits i).statement? (s.progress i) = none) :
    s.step edits i = s := by
  simp only [step, ended]

namespace Scene

variable {w : Write} {now : Instant} {name : String}

/-- A write without a name is refused. -/
theorem step_nameless (is : edits i = .write w now) (waiting : s.progress i = .waiting)
    (nameless : w.name = none) :
    s.step edits i = { s with progress := Function.update s.progress i .failed } :=
  step_of_error (Edit.statement?_write is waiting) (by rw [insertNew_nameless nameless]; rfl)

/-- A write whose id is not taken inserts its row. -/
theorem step_fresh (is : edits i = .write w now) (waiting : s.progress i = .waiting)
    (named : w.name = some name) (fresh : s.table.rowsOf w.id.text = []) :
    s.step edits i = ⟨s.table ++ [User.row (w.user name now none) none],
      Function.update s.progress i (.created (User.row (w.user name now none) none)),
      s.log ++ [i]⟩ :=
  step_of_ok (Edit.statement?_write is waiting) (by rw [insertNew_fresh named now fresh]; rfl)

/-- A write whose id is taken finds this out. -/
theorem step_taken (is : edits i = .write w now) (waiting : s.progress i = .waiting)
    (named : w.name = some name) (taken : s.table.rowsOf w.id.text ≠ []) :
    s.step edits i = { s with progress := Function.update s.progress i .conflicted } :=
  step_of_ok (Edit.statement?_write is waiting) (by rw [insertNew_taken named now taken]; rfl)

/-- A write that has found a row overwrites the one row with its id. -/
theorem step_conflicted {row : Row} (is : edits i = .write w now)
    (conflicted : s.progress i = .conflicted) (named : w.name = some name)
    (only : s.table.rowsOf w.id.text = [row]) :
    s.step edits i = ⟨s.table.modify w.id.text (·.overwritten name w.change now),
      Function.update s.progress i (.updated (row.overwritten name w.change now)),
      s.log ++ [i]⟩ := by
  have next : (edits i).statement? (s.progress i) = some fun t =>
      (overwrite w.id.text w.change now t).map fun (answer, t') => (.ofOverwritten answer, t') := by
    rw [is, conflicted]
    rfl
  have changed := overwrite_named named now s.table
  rw [only] at changed
  exact step_of_ok next (by rw [changed]; rfl)

/-- An erasure is one statement. -/
theorem step_erase {id : UserId} (is : edits i = .erase id now)
    (waiting : s.progress i = .waiting) :
    s.step edits i = ⟨s.table.modify id.text (·.erased now),
      Function.update s.progress i (.erased (0 < (s.table.rowsOf id.text).length)),
      s.log ++ [i]⟩ := by
  have next : (edits i).statement? (s.progress i) = some fun t =>
      (Store.erase id.text now t).map fun (count, t') => (.erased (0 < count), t') := by
    rw [is, waiting]
    rfl
  exact step_of_ok next rfl

end Scene

/-- Where every edit stands as it has to, a step is one of the moves. -/
theorem Sound.moves (h : Sound edits t s) (i : ι) : Moves edits s i (s.step edits i) := by
  have stands := h.stands i
  cases is : edits i with
  | erase id now =>
    cases reached : s.progress i with
    | waiting =>
      have applied : (edits i).apply s.table = s.table.modify id.text (·.erased now) := by
        rw [is, Edit.apply]
      rw [Scene.step_erase is reached, ← applied]
      exact .erases _ is reached
    | _ =>
      rw [Scene.step_of_none (by rw [is, reached]; rfl)]
      exact .stays
  | write w now =>
    cases reached : s.progress i with
    | waiting =>
      cases named : w.name with
      | none =>
        rw [Scene.step_nameless is reached named]
        exact .fails is reached named
      | some name =>
        by_cases fresh : s.table.rowsOf w.id.text = []
        · rw [Scene.step_fresh is reached named fresh, ← apply_fresh named now fresh, ← is]
          exact .creates is reached named fresh
        · rw [Scene.step_taken is reached named fresh]
          exact .conflicts is reached named fresh
    | conflicted =>
      -- The row that was found is still there, so the overwriting finds it.
      rw [reached] at stands
      cases stands with
      | conflicted is' named taken =>
        obtain ⟨row, only⟩ := h.distinct.exists_rowsOf taken
        rw [Scene.step_conflicted is' reached named only, ← apply_taken named _ taken, ← is']
        exact .updates _ is' reached named taken
    | _ =>
      rw [Scene.step_of_none (by rw [is, reached]; rfl)]
      exact .stays

/-! ## Every statement leaves the scene sound -/

/-- A move that carries nothing out. -/
theorem Sound.update {p : Progress} (h : Sound edits t s) (pending : (s.progress i).isDone = false)
    (notDone : p.isDone = false) (stands : Stands edits t s i p) :
    Sound edits t { s with progress := Function.update s.progress i p } where
  table := h.table
  distinct := h.distinct
  done j := by
    rw [h.done j]
    by_cases same : j = i
    · subst same
      simp [pending, notDone]
    · simp [same]
  stands j := by
    show Stands edits t _ j (Function.update s.progress i p j)
    by_cases same : j = i
    · subst same
      rw [Function.update_self]
      exact stands.mono (.refl _) fun _ => Iff.rfl
    · rw [Function.update_of_ne same]
      exact (h.stands j).mono (.refl _) fun _ => Iff.rfl

/-- A move that carries an edit out. -/
theorem Sound.carryOut {p : Progress} (h : Sound edits t s)
    (pending : (s.progress i).isDone = false) (done : p.isDone = true)
    (stands : Stands edits t ⟨(edits i).apply s.table, Function.update s.progress i p,
      s.log ++ [i]⟩ i p) :
    Sound edits t ⟨(edits i).apply s.table, Function.update s.progress i p, s.log ++ [i]⟩ where
  table := by
    rw [List.map_append, List.map_singleton, applyAll_concat, h.table]
  distinct := distinctIds_apply h.distinct (edits i)
  done j := by
    rw [List.mem_append, h.done j, List.mem_singleton]
    by_cases same : j = i
    · subst same
      simp [done]
    · simp [same]
  stands j := by
    show Stands edits t _ j (Function.update s.progress i p j)
    by_cases same : j = i
    · subst same
      rw [Function.update_self]
      exact stands
    · rw [Function.update_of_ne same]
      exact (h.stands j).mono (Keeps.apply (edits i) s.table) (firstWriter?_concat_of_ne same)

theorem Sound.step (h : Sound edits t s) (i : ι) : Sound edits t (s.step edits i) := by
  have move := h.moves i
  cases result : s.step edits i with
  | mk table progress log =>
  rw [result] at move
  cases move with
  | stays => exact h
  | fails is waiting nameless => exact h.update (by rw [waiting]; rfl) rfl (.failed is nameless)
  | conflicts is waiting named taken =>
    exact h.update (by rw [waiting]; rfl) rfl (.conflicted is named taken)
  | @creates w now name is waiting named fresh =>
    have pending : (s.progress i).isDone = false := by rw [waiting]; rfl
    obtain ⟨freshAtStart, none⟩ := (h.rowsOf_eq_nil_iff _).1 fresh
    have kept : Keeps [User.row (w.user name now Option.none) Option.none]
        ((edits i).apply s.table) := by
      rw [is, apply_fresh named now fresh]
      exact fun row hrow => ⟨row, List.mem_append_right _ hrow, rfl⟩
    exact h.carryOut pending rfl
      (.created is named freshAtStart ((h.firstWriter?_concat is named pending).2 none) kept)
  | updates row is conflicted named taken =>
    have pending : (s.progress i).isDone = false := by rw [conflicted]; rfl
    -- A first write would have met no row, but this one has found one.
    refine h.carryOut pending rfl (.updated is named fun fresh first => taken ?_)
    exact (h.rowsOf_eq_nil_iff _).2 ⟨fresh, (h.firstWriter?_concat is named pending).1 first⟩
  | erases found is waiting => exact h.carryOut (by rw [waiting]; rfl) rfl (.erased is)

theorem Sound.run (h : Sound edits t s) (schedule : List ι) :
    Sound edits t (s.run edits schedule) := by
  induction schedule generalizing s with
  | nil => exact h
  | cons i schedule ih => exact ih (h.step i)

/-- No statement removes a row or moves it. -/
theorem Moves.keeps {s' : Scene ι} (move : Moves edits s i s') : Keeps s.table s'.table := by
  cases move with
  | stays | fails | conflicts => exact .refl s.table
  | creates | updates | erases => exact .apply (edits i) s.table

theorem Sound.keeps_run (h : Sound edits t s) (schedule : List ι) :
    Keeps s.table (s.run edits schedule).table := by
  induction schedule generalizing s with
  | nil => exact .refl s.table
  | cons i schedule ih => exact (h.moves i).keeps.trans (ih (h.step i))

/-! ## What is written last -/

/-- A row says what was written last, and a row that is not deleted says it in all its columns. -/
theorem last_upsert {u : Upsert} {row : Row} {history : List Edit}
    (last : (upserts x history).getLast? = some u)
    (hrow : row ∈ (applyAll history t).rowsOf x.text) :
    row.lastUpdatedWith = u.write.lastUpdatedWith.label ∧ row.userType = u.write.userType.label ∧
      (row.deletedAt = none → row.name = u.name ∧ row.email = u.write.email) := by
  induction history using List.reverseRecOn generalizing row with
  | nil => simp [upserts] at last
  | append_singleton history e ih =>
    rw [applyAll_concat] at hrow
    rw [upserts_concat] at last
    by_cases other : e.id ≠ x
    · rw [rowsOf_apply_of_ne other] at hrow
      rw [(upsertOf?_of_ne other).1, Option.toList_none, List.append_nil] at last
      exact ih last hrow
    obtain rfl : e.id = x := not_not.1 other
    cases e with
    | erase id now =>
      rw [Edit.id] at ih hrow last
      rw [rowsOf_apply_erase] at hrow
      obtain ⟨old, hold, rfl⟩ := List.mem_map.1 hrow
      obtain ⟨entryPoint, userType, -⟩ := ih (by simpa [Edit.upsertOf?] using last) hold
      exact ⟨entryPoint, userType, fun present => absurd present (Option.some_ne_none now)⟩
    | write w now =>
      rw [Edit.id] at ih hrow last
      cases named : w.name with
      | none =>
        rw [rowsOf_apply_nameless named] at hrow
        exact ih (by simpa [Edit.upsertOf?, named] using last) hrow
      | some name =>
        obtain rfl : u = ⟨name, w, now⟩ := by simpa [Edit.upsertOf?, named] using last.symm
        rw [rowsOf_apply_write named] at hrow
        split at hrow
        · obtain rfl := List.mem_singleton.1 hrow
          exact ⟨rfl, rfl, fun _ => ⟨rfl, rfl⟩⟩
        · obtain ⟨row, -, rfl⟩ := List.mem_map.1 hrow
          exact ⟨rfl, rfl, fun _ => ⟨rfl, rfl⟩⟩

/-! ## A write alone -/

/-- What a write answers, by how far it came. -/
def Progress.answer : Progress → Except Error (Bool × Row)
  | .created row => .ok (true, row)
  | .updated row => .ok (false, row)
  | .waiting | .conflicted | .erased _ | .failed => .error (.store .upsert)

/-- A write that nothing comes between runs its statements in a row. -/
theorem insertOrOverwrite_yields_run {w : Write} {now : Instant} (is : edits i = .write w now)
    (waiting : s.progress i = .waiting) (distinct : s.table.DistinctIds) :
    (insertOrOverwrite w now).Yields s.table ((s.run edits [i, i]).progress i).answer
      (s.run edits [i, i]).table := by
  have twice : s.run edits [i, i] = (s.step edits i).step edits i := rfl
  rw [twice]
  cases named : w.name with
  | none =>
    rw [Scene.step_nameless is waiting named, Scene.step_of_none (by simp [is, Edit.statement?])]
    simp only [Function.update_self]
    exact insertOrOverwrite_nameless named now s.table
  | some name =>
    by_cases fresh : s.table.rowsOf w.id.text = []
    · rw [Scene.step_fresh is waiting named fresh,
        Scene.step_of_none (by simp [is, Edit.statement?])]
      simp only [Function.update_self]
      exact insertOrOverwrite_new named now fresh
    · obtain ⟨row, only⟩ := distinct.exists_rowsOf fresh
      have conflicted : (s.step edits i).progress i = .conflicted := by
        simp only [Scene.step_taken is waiting named fresh, Function.update_self]
      have stays : (s.step edits i).table = s.table := by
        rw [Scene.step_taken is waiting named fresh]
      rw [Scene.step_conflicted is conflicted named (by rw [stays, only]), stays]
      simp only [Function.update_self]
      exact insertOrOverwrite_old named now only

/-- A write that has found a row finds it again. -/
theorem Sound.overwrites (h : Sound edits t s) (conflicted : s.progress i = .conflicted) :
    ∃ (w : Write) (now : Instant) (name : String) (row : Row), edits i = .write w now ∧
      w.name = some name ∧
      s.table.rowsOf w.id.text = [row] ∧
      (s.step edits i).progress i = .updated (row.overwritten name w.change now) := by
  have stands := h.stands i
  rw [conflicted] at stands
  cases stands with
  | @conflicted w now name is named taken =>
    obtain ⟨row, only⟩ := h.distinct.exists_rowsOf taken
    refine ⟨w, now, name, row, is, named, only, ?_⟩
    simp only [Scene.step_conflicted is conflicted named only, Function.update_self]

/-! ## Edits in any order -/

/-- Edits of a table with distinct ids run their statements in any order. The table is that of the
edits that were carried out, one after the other. A write that found a row finds it again, and only
a write without a name fails. Of the writes of a new id one creates the row, whose time of creation
is that of this write and stays. A row that is not deleted is as the last write of its id left
it. -/
theorem edits_in_any_order (edits : ι → Edit) (distinct : t.DistinctIds) (schedule : List ι) :
    let s := Scene.run edits schedule { table := t }
    (s.table = applyAll (s.log.map edits) t ∧ s.table.DistinctIds ∧
      ∀ i, i ∈ s.log ↔ (s.progress i).isDone = true) ∧
    (∀ (i : ι) (w : Write) (now : Instant), edits i = .write w now → s.progress i = .waiting →
      (insertOrOverwrite w now).Yields s.table ((s.run edits [i, i]).progress i).answer
        (s.run edits [i, i]).table) ∧
    (∀ i, s.progress i = .conflicted → ∃ (w : Write) (now : Instant) (name : String) (row : Row),
      edits i = .write w now ∧ w.name = some name ∧ s.table.rowsOf w.id.text = [row] ∧
        (s.step edits i).progress i = .updated (row.overwritten name w.change now)) ∧
    (∀ i, s.progress i = .failed →
      ∃ (w : Write) (now : Instant), edits i = .write w now ∧ w.name = none) ∧
    (∀ x : UserId, t.rowsOf x.text = [] →
      (∃ i, ((edits i).upsertOf? x).isSome = true ∧ s.progress i ≠ .waiting) →
      ∃ (c : ι) (row : Row), ((edits c).upsertOf? x).isSome = true ∧ s.progress c = .created row ∧
        ∀ j, j ≠ c → ((edits j).upsertOf? x).isSome = true →
          s.progress j = .waiting ∨ s.progress j = .conflicted ∨
            ∃ row, s.progress j = .updated row) ∧
    (∀ i row, s.progress i = .created row → ∃ (w : Write) (now : Instant) (stored : Row),
      edits i = .write w now ∧ t.rowsOf w.id.text = [] ∧ s.table.rowsOf w.id.text = [stored] ∧
        stored.createdAt = now) ∧
    (∀ row ∈ s.table, (∃ old ∈ t, row.cursor = old.cursor) ∨
      ∃ (i : ι) (w : Write) (now : Instant) (new : Row), edits i = .write w now ∧
        w.id.text = row.id ∧ s.progress i = .created new ∧ row.createdAt = now) ∧
    (∀ later : List ι, Keeps s.table (s.run edits later).table) ∧
    ∀ (x : UserId) (u : Upsert), (upserts x (s.log.map edits)).getLast? = some u →
      ∀ row ∈ s.table.rowsOf x.text, row.lastUpdatedWith = u.write.lastUpdatedWith.label ∧
        row.userType = u.write.userType.label ∧
        (row.deletedAt = none → row.name = u.name ∧ row.email = u.write.email) := by
  intro s
  have sound : Sound edits t s := (Sound.start edits distinct).run schedule
  refine ⟨⟨sound.table, sound.distinct, sound.done⟩, ?_, fun i => sound.overwrites, ?_, ?_,
    fun i row => sound.created_row, fun row => sound.createdAt_row, sound.keeps_run, ?_⟩
  · intro i w now is waiting
    exact insertOrOverwrite_yields_run is waiting sound.distinct
  · intro i failed
    have stands := sound.stands i
    rw [failed] at stands
    cases stands with
    | @failed w now is nameless => exact ⟨w, now, is, nameless⟩
  · rintro x fresh ⟨i, writes, begun⟩
    exact sound.exists_creator fresh writes begun
  · intro x u last row hrow
    rw [sound.table] at hrow
    exact last_upsert last hrow

/-- Two writes of a new id and an erasure of it: both insertions run, then the erasure, then the
second write overwrites the erased row, which keeps the time of the first write. -/
theorem edits_in_any_order_erased_between :
    let ada : UserId := ⟨.oidc, "ada", by decide⟩
    let first : Instant := ⟨7, by decide, by decide⟩
    let second : Instant := ⟨3, by decide, by decide⟩
    let third : Instant := ⟨9, by decide, by decide⟩
    let grace : Row := ⟨"oidc~grace", "Grace", none, "create-endpoint", "human", third, none, none⟩
    let person : Write := ⟨ada, some "Ada", some "ada@example.org", .human, .createEndpoint⟩
    let program : Write := ⟨ada, some "Engine", none, .application, .updateEndpoint⟩
    let edits : Fin 3 → Edit
      | 0 => .write person first
      | 1 => .write program second
      | 2 => .erase ada third
    let s := Scene.run edits [0, 1, 2] { table := [grace] }
    Table.DistinctIds [grace] ∧ s.progress 1 = .conflicted ∧
    (∃ row : Row, s.table.rowsOf "oidc~ada" = [row] ∧
      (s.step edits 1).progress 1 = .updated (row.overwritten "Engine" program.change second)) ∧
    (s.run edits [1]).table.rowsOf "oidc~ada" =
      [⟨"oidc~ada", "Engine", none, "update-endpoint", "application", first,
          some second, none⟩] := by
  intro ada first second third grace person program edits s
  have distinct : Table.DistinctIds [grace] := List.nodup_singleton _
  obtain ⟨-, -, overwrites, -⟩ := edits_in_any_order edits distinct [0, 1, 2]
  obtain ⟨w, now, name, row, is, named, only, updated⟩ := overwrites 1 rfl
  obtain ⟨rfl, rfl⟩ : program = w ∧ second = now := Edit.write.inj is
  obtain rfl : "Engine" = name := Option.some.inj named
  exact ⟨distinct, rfl, ⟨row, only, updated⟩, by decide +kernel⟩

end UserDirectory.Directory
