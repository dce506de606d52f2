import Mathlib.Data.List.Nodup
import UserDirectory.Store.Table

/-!
# Rows by their ids

In a table with distinct ids an id has at most one row. Changing the rows with an id, in what is not
the id, changes that one row and no other.
-/
namespace UserDirectory.Store

variable {t : Table} {id x : String} {f : Row → Row}

/-- The ids of the rows are distinct, as the key of the table has it. -/
def Table.DistinctIds (t : Table) : Prop := (t.map (·.id)).Nodup

instance (t : Table) : Decidable t.DistinctIds := inferInstanceAs (Decidable (List.Nodup _))

/-- The rows with an id. -/
def Table.rowsOf (t : Table) (id : String) : List Row := t.filter (·.id == id)

/-- Changes the rows with an id. -/
def Table.modify (t : Table) (id : String) (f : Row → Row) : Table :=
  t.map fun row => if row.id = id then f row else row

theorem mem_rowsOf {row : Row} : row ∈ t.rowsOf id ↔ row ∈ t ∧ row.id = id := by
  simp [Table.rowsOf]

theorem any_id_eq_false_iff : t.any (·.id == id) = false ↔ t.rowsOf id = [] := by
  simp [Table.rowsOf, List.filter_eq_nil_iff]

/-! ## Distinct ids -/

theorem Table.DistinctIds.eq_of_id_eq (h : t.DistinctIds) {a b : Row} (ha : a ∈ t) (hb : b ∈ t)
    (same : a.id = b.id) : a = b :=
  List.inj_on_of_nodup_map h ha hb same

theorem Table.DistinctIds.rowsOf_eq_singleton (h : t.DistinctIds) {row : Row} (hrow : row ∈ t) :
    t.rowsOf row.id = [row] := by
  have nodup : (t.rowsOf row.id).Nodup := (List.Nodup.of_map _ h).filter _
  have only : ∀ r ∈ t.rowsOf row.id, r = row := fun r hr =>
    h.eq_of_id_eq (mem_rowsOf.1 hr).1 hrow (mem_rowsOf.1 hr).2
  have member : row ∈ t.rowsOf row.id := mem_rowsOf.2 ⟨hrow, rfl⟩
  exact List.perm_singleton.1
      ((List.perm_ext_iff_of_nodup nodup (List.nodup_singleton row)).2 fun r => by
    rw [List.mem_singleton]
    exact ⟨only r, fun same => same ▸ member⟩)

theorem Table.DistinctIds.exists_rowsOf (h : t.DistinctIds) (taken : t.rowsOf id ≠ []) :
    ∃ row, t.rowsOf id = [row] := by
  obtain ⟨row, hrow⟩ := List.exists_mem_of_ne_nil _ taken
  obtain ⟨inTable, named⟩ := mem_rowsOf.1 hrow
  exact ⟨row, named ▸ h.rowsOf_eq_singleton inTable⟩

theorem Table.DistinctIds.filter (h : t.DistinctIds) (keep : Row → Bool) :
    Table.DistinctIds (t.filter keep) :=
  List.Nodup.sublist (List.filter_sublist.map _) h

/-- Members that stand behind the first ones can be left out. -/
theorem take_filter_of_forall {α : Type} {keep : α → Bool} {l : List α} {n : Nat}
    (kept : ∀ a ∈ l.take n, keep a = true) : (l.filter keep).take n = l.take n := by
  induction l generalizing n with
  | nil => rfl
  | cons a l ih =>
    cases n with
    | zero => rfl
    | succ n =>
      rw [List.take_succ_cons, List.forall_mem_cons] at kept
      rw [List.filter_cons_of_pos kept.1, List.take_succ_cons, List.take_succ_cons, ih kept.2]

theorem Table.DistinctIds.append (h : t.DistinctIds) {row : Row} (fresh : t.rowsOf row.id = []) :
    Table.DistinctIds (t ++ [row]) := by
  rw [DistinctIds, List.map_append, List.map_singleton, List.nodup_append]
  refine ⟨h, List.nodup_singleton row.id, ?_⟩
  intro a ha b hb same
  obtain ⟨r, hr, rfl⟩ := List.mem_map.1 ha
  have member : r ∈ t.rowsOf row.id := mem_rowsOf.2 ⟨hr, same.trans (List.mem_singleton.1 hb)⟩
  simp [fresh] at member

theorem rowsOf_append_singleton (row : Row) :
    Table.rowsOf (t ++ [row]) x = t.rowsOf x ++ if row.id = x then [row] else [] := by
  rw [Table.rowsOf, List.filter_append]
  congr 1
  by_cases same : row.id = x <;> simp [same]

/-! ## Changes -/

theorem mem_modify {row : Row} :
    row ∈ t.modify id f ↔ ∃ r ∈ t, (if r.id = id then f r else r) = row := List.mem_map

/-- A change of rows that are not there changes nothing. -/
theorem modify_of_rowsOf_eq_nil (missing : t.rowsOf id = []) : t.modify id f = t := by
  have other : ∀ row ∈ t, (if row.id = id then f row else row) = row := by
    intro row hrow
    refine if_neg fun same => ?_
    have member : row ∈ t.rowsOf id := mem_rowsOf.2 ⟨hrow, same⟩
    simp [missing] at member
  rw [Table.modify, List.map_congr_left other, List.map_id']

theorem id_changed (keep : ∀ row, (f row).id = row.id) (row : Row) :
    (if row.id = id then f row else row).id = row.id := by
  split
  · exact keep row
  · rfl

theorem map_id_modify (keep : ∀ row, (f row).id = row.id) :
    (t.modify id f).map (·.id) = t.map (·.id) := by
  rw [Table.modify, List.map_map]
  exact List.map_congr_left fun row _ => id_changed keep row

theorem Table.DistinctIds.modify (h : t.DistinctIds) (keep : ∀ row, (f row).id = row.id) :
    (t.modify id f).DistinctIds := by
  rw [DistinctIds, map_id_modify keep]
  exact h

theorem rowsOf_modify (keep : ∀ row, (f row).id = row.id) :
    (t.modify id f).rowsOf x = if x = id then (t.rowsOf x).map f else t.rowsOf x := by
  have found : (t.modify id f).rowsOf x = (t.rowsOf x).map fun row => if row.id = id then f row
      else row := by
    rw [Table.modify, Table.rowsOf, List.filter_map]
    congr 2
    funext row
    simp only [Function.comp_apply, id_changed keep]
  rw [found]
  by_cases same : x = id
  · rw [if_pos same]
    exact List.map_congr_left fun row hrow => if_pos ((mem_rowsOf.1 hrow).2.trans same)
  · rw [if_neg same, List.map_congr_left fun row hrow =>
      if_neg ((mem_rowsOf.1 hrow).2.trans_ne same), List.map_id']

end UserDirectory.Store
