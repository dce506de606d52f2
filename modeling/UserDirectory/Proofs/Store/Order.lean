import Mathlib.Data.List.Sort
import UserDirectory.Proofs.Store.Rows

/-!
# Rows in the order of lists

Cursors are in strict order by time and then by id. The rows that a query selects are in this order
without repetition, and the rows that come after a selected one are those that the query selects
after its cursor.
-/
namespace UserDirectory

open Paging Search Store

namespace Paging.Cursor

/-- The strict order of cursors. -/
def Before (a b : Cursor) : Prop :=
  a.createdAt.micros < b.createdAt.micros ∨ (a.createdAt.micros = b.createdAt.micros ∧ a.id < b.id)

instance (a b : Cursor) : Decidable (a.Before b) := inferInstanceAs (Decidable (_ ∨ _))

theorem Before.irrefl (a : Cursor) : ¬ a.Before a := by
  rintro (less | ⟨-, less⟩)
  · exact Int.lt_irrefl _ less
  · exact String.lt_irrefl _ less

theorem Before.trans {a b c : Cursor} (hab : a.Before b) (hbc : b.Before c) : a.Before c := by
  rcases hab with hab | ⟨hab, ida⟩ <;> rcases hbc with hbc | ⟨hbc, idb⟩
  · exact .inl (by omega)
  · exact .inl (by omega)
  · exact .inl (by omega)
  · exact .inr ⟨by omega, String.lt_trans ida idb⟩

theorem Before.asymm {a b : Cursor} (hab : a.Before b) (hba : b.Before a) : False :=
  Before.irrefl a (hab.trans hba)

end Paging.Cursor

namespace Store

/-- The sort key of a row. -/
def Row.cursor (row : Row) : Cursor := ⟨row.createdAt, row.id⟩

theorem Row.isAfter_iff {row : Row} {c : Cursor} : row.isAfter c = true ↔ c.Before row.cursor := by
  simp only [isAfter, Cursor.Before, cursor, Bool.or_eq_true, Bool.and_eq_true,
    decide_eq_true_eq, beq_iff_eq]
  rw [@eq_comm _ row.createdAt.micros]

/-- Rows in order that differ in their ids are in strict order. -/
theorem Row.before_of_le {a b : Row} (h : a.le b = true) (differ : a.id ≠ b.id) :
    a.cursor.Before b.cursor := by
  simp only [le, Bool.or_eq_true, Bool.and_eq_true, decide_eq_true_eq, beq_iff_eq] at h
  rcases h with h | ⟨time, id⟩
  · exact .inl h
  · refine .inr ⟨time, ?_⟩
    rcases Decidable.em (a.id < b.id) with less | notLess
    · exact less
    · exact absurd (String.le_antisymm id (String.not_lt.1 notLess)) differ

/-! ## Selected rows -/

namespace PageQuery

variable {q : PageQuery} {t : Table}

/-- The rows that are selected, in order. -/
def rows (q : PageQuery) (t : Table) : List Row := (t.filter q.selects).mergeSort Row.le

theorem mem_rows {row : Row} : row ∈ q.rows t ↔ row ∈ t ∧ q.selects row = true := by
  rw [rows, List.mem_mergeSort, List.mem_filter]

theorem pairwise_rows (h : t.DistinctIds) (q : PageQuery) :
    (q.rows t).Pairwise fun a b => a.cursor.Before b.cursor := by
  have sorted : (q.rows t).Pairwise fun a b => a.le b = true :=
    @List.pairwise_mergeSort _ Row.le (fun _ _ _ => Row.le_trans) Row.le_total _
  have distinct : ((q.rows t).map (·.id)).Nodup := by
    have perm : ((q.rows t).map (·.id)).Perm ((t.filter q.selects).map (·.id)) :=
      (List.mergeSort_perm _ _).map _
    exact perm.nodup_iff.2 (List.Nodup.sublist (List.filter_sublist.map _) h)
  exact (sorted.and (List.pairwise_map.1 distinct)).imp fun both => Row.before_of_le both.1 both.2

instance : Std.Irrefl fun a b : Row => a.cursor.Before b.cursor :=
  ⟨fun a => Cursor.Before.irrefl a.cursor⟩

instance : Std.Antisymm fun a b : Row => a.cursor.Before b.cursor :=
  ⟨fun _ _ hab hba => (hab.asymm hba).elim⟩

theorem selects_iff {row : Row} :
    q.selects row = true ↔
      (q.reaches row = true ∧ ∀ name ∈ q.name, Pattern.holds name row.name = true) ∧
        ∀ c ∈ q.after, c.Before row.cursor := by
  simp only [selects, Bool.and_eq_true, Option.all_eq_true, Row.isAfter_iff, Option.mem_def]

/-- Of fewer rows those that are left are selected, in the same order. -/
theorem rows_filter (h : t.DistinctIds) (q : PageQuery) (keep : Row → Bool) :
    q.rows (t.filter keep) = (q.rows t).filter keep := by
  refine (pairwise_rows (h.filter keep) q).eq_of_mem_iff
    ((pairwise_rows h q).filter keep) fun row => ?_
  rw [mem_rows, List.mem_filter, List.mem_filter, mem_rows, and_right_comm]

/-- After the cursor of a selected row that is no earlier, the query selects the same rows among the
later ones. -/
theorem selects_after_iff {last row : Row} (h : q.selects last = true) :
    { q with after := some last.cursor }.selects row = true ↔
      q.selects row = true ∧ last.cursor.Before row.cursor := by
  rw [selects_iff] at h
  rw [selects_iff, selects_iff]
  constructor
  · rintro ⟨same, later⟩
    have fromLast := later last.cursor rfl
    exact ⟨⟨same, fun c hc => (h.2 c hc).trans fromLast⟩, fromLast⟩
  · rintro ⟨⟨same, -⟩, fromLast⟩
    refine ⟨same, ?_⟩
    rintro c ⟨⟩
    exact fromLast

/-- After the cursor of one of the rows, the query selects the rows behind it. -/
theorem rows_after (h : t.DistinctIds) {first later : List Row} {last : Row}
    (split : q.rows t = first ++ last :: later) :
    { q with after := some last.cursor }.rows t = later := by
  have sorted := pairwise_rows h q
  have inRows := fun row => @mem_rows q t row
  simp only [split, List.mem_append, List.mem_cons] at sorted inRows
  obtain ⟨-, fromLast, firstBefore⟩ := List.pairwise_append.1 sorted
  obtain ⟨lastBefore, laterSorted⟩ := List.pairwise_cons.1 fromLast
  have lastSelected := ((inRows last).1 (.inr (.inl rfl))).2
  refine (pairwise_rows h _).eq_of_mem_iff laterSorted fun row => ?_
  rw [mem_rows, selects_after_iff lastSelected]
  constructor
  · rintro ⟨inTable, selected, after⟩
    rcases (inRows row).2 ⟨inTable, selected⟩ with inFirst | rfl | inLater
    · exact (after.asymm (firstBefore row inFirst last List.mem_cons_self)).elim
    · exact (Cursor.Before.irrefl _ after).elim
    · exact inLater
  · intro inLater
    obtain ⟨inTable, selected⟩ := (inRows row).1 (.inr (.inr inLater))
    exact ⟨inTable, selected, lastBefore row inLater⟩

end PageQuery

end Store

end UserDirectory
