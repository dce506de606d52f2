import Mathlib.Data.List.Sort
import Mathlib.Tactic.Linarith
import UserDirectory.Proofs.Search.Rounding
import UserDirectory.Proofs.Store.Rows

/-!
# Rows in the order of a search

A search sees four columns of a row, the profile. Profiles are in strict order by their distance
from the term and then by id, so a table has one order, which depends on nothing but the set of its
profiles. The rows that a search finds are the first ones in this order.
-/
namespace UserDirectory.Store

open Search

/-- What a search sees of a row. -/
structure Profile where
  id : String
  name : String
  email : Option String
  userType : String
deriving DecidableEq

def Row.profile (row : Row) : Profile := ⟨row.id, row.name, row.email, row.userType⟩

namespace Profile

/-- Name and address with a blank between them; no address counts as an empty one. -/
def haystack (p : Profile) : String := p.name ++ " " ++ p.email.getD ""

def distance (term : String) (p : Profile) : ℚ := exactDistance p.haystack term

/-- The strict order of profiles: at a smaller distance from the term, or at the same one with a
smaller id. -/
def Precedes (term : String) (a b : Profile) : Prop :=
  a.distance term < b.distance term ∨ (a.distance term = b.distance term ∧ a.id < b.id)

variable {term : String} {a b c : Profile}

theorem Precedes.irrefl (term : String) (a : Profile) : ¬ a.Precedes term a := by
  rintro (less | ⟨-, less⟩)
  · exact lt_irrefl _ less
  · exact String.lt_irrefl _ less

theorem Precedes.trans (hab : a.Precedes term b) (hbc : b.Precedes term c) : a.Precedes term c := by
  rcases hab with hab | ⟨hab, ida⟩ <;> rcases hbc with hbc | ⟨hbc, idb⟩
  · exact .inl (hab.trans hbc)
  · exact .inl (hab.trans_eq hbc)
  · exact .inl (hab.trans_lt hbc)
  · exact .inr ⟨hab.trans hbc, String.lt_trans ida idb⟩

/-- The order by the distances as they are computed, rounded at each step. -/
def PrecedesRounded (term : String) (a b : Profile) : Prop :=
  roundedDistance a.haystack term < roundedDistance b.haystack term ∨
    (roundedDistance a.haystack term = roundedDistance b.haystack term ∧ a.id < b.id)

/-- The profile and the term have no more trigrams than rounding tells apart. -/
def Short (term : String) (p : Profile) : Prop :=
  (trigramSet p.haystack ∪ trigramSet term).card ≤ 2 ^ 25

theorem precedesRounded_iff (short : a.Short term) (short' : b.Short term) :
    a.PrecedesRounded term b ↔ a.Precedes term b := by
  rw [PrecedesRounded, roundedDistance_lt_iff short short', roundedDistance_eq_iff short short']
  exact Iff.rfl

instance : Std.Irrefl (Precedes term) := ⟨Precedes.irrefl term⟩

instance : Std.Antisymm (Precedes term) :=
  ⟨fun a _ hab hba => (Precedes.irrefl term a (hab.trans hba)).elim⟩

end Profile

/-! ## The order of rows -/

variable {term : String} {t t' : Table}

/-- Is the row found before the other one? -/
def Row.closer (term : String) (a b : Row) : Bool :=
  nearer (similarity a.haystack term, a) (similarity b.haystack term, b)

theorem Row.distance_profile (term : String) (row : Row) :
    row.profile.distance term = 1 - (similarity row.haystack term).toRat := by
  rw [toRat_similarity]
  rfl

theorem Row.closer_iff {a b : Row} :
    a.closer term b = true ↔ a.profile.distance term < b.profile.distance term ∨
      (a.profile.distance term = b.profile.distance term ∧ a.id ≤ b.id) := by
  simp only [closer, nearer, Bool.or_eq_true, Bool.and_eq_true, Bool.not_eq_true',
    ← Bool.not_eq_true, decide_eq_true_iff, Ratio.le_iff_toRat, distance_profile]
  constructor
  · rintro (less | ⟨most, id⟩)
    · exact .inl (by linarith)
    · rcases lt_or_eq_of_le most with less | same
      · exact .inl (by linarith)
      · exact .inr ⟨by rw [same], id⟩
  · rintro (less | ⟨same, id⟩)
    · exact .inl (by linarith)
    · exact .inr ⟨by linarith, id⟩

theorem Row.closer_total (a b : Row) : (a.closer term b || b.closer term a) = true :=
  nearer_total _ _

theorem Row.closer_trans {a b c : Row} (hab : a.closer term b = true)
    (hbc : b.closer term c = true) :
    a.closer term c = true := by
  rw [closer_iff] at *
  rcases hab with hab | ⟨hab, ida⟩ <;> rcases hbc with hbc | ⟨hbc, idb⟩
  · exact .inl (hab.trans hbc)
  · exact .inl (hab.trans_eq hbc)
  · exact .inl (hab.trans_lt hbc)
  · exact .inr ⟨hab.trans hbc, String.le_trans ida idb⟩

/-- Rows in order that differ in their ids have profiles in strict order. -/
theorem Row.precedes_of_closer {a b : Row} (h : a.closer term b = true) (differ : a.id ≠ b.id) :
    a.profile.Precedes term b.profile := by
  rcases closer_iff.1 h with less | ⟨same, id⟩
  · exact .inl less
  · exact .inr ⟨same, String.not_le.1 fun back => differ (String.le_antisymm id back)⟩

/-! ## Tables in order -/

/-- The rows of a table in the order in which a search finds them. -/
def Table.ranked (term : String) (t : Table) : List Row := t.mergeSort (Row.closer term)

/-- What a search is answered with. -/
def Table.best (term : String) (t : Table) : List Row := (t.ranked term).take searchLimit

theorem nearest_eq (term : String) (t : Table) : nearest term t = .ok (t.best term, t) := by
  have sorted : (t.map fun row => (similarity row.haystack term, row)).mergeSort nearer =
      (t.ranked term).map fun row => (similarity row.haystack term, row) := by
    symm
    exact List.map_mergeSort fun _ _ _ _ => rfl
  simp only [nearest, sorted, ← List.map_take, List.map_map]
  rw [Table.best, show ((·.2) ∘ fun row : Row => (similarity row.haystack term, row)) = id
    from rfl, List.map_id]

theorem perm_ranked (term : String) (t : Table) : (t.ranked term).Perm t := List.mergeSort_perm _ _

theorem mem_ranked {row : Row} : row ∈ t.ranked term ↔ row ∈ t := List.mem_mergeSort

theorem nodup_ranked (distinct : t.DistinctIds) (term : String) :
    ((t.ranked term).map (·.id)).Nodup :=
  ((perm_ranked term t).map _).nodup_iff.2 distinct

theorem pairwise_ranked (distinct : t.DistinctIds) (term : String) :
    (t.ranked term).Pairwise fun a b => a.profile.Precedes term b.profile := by
  have sorted : (t.ranked term).Pairwise fun a b => a.closer term b = true :=
    @List.pairwise_mergeSort _ (Row.closer term) (fun _ _ _ => Row.closer_trans) Row.closer_total t
  have differ := List.pairwise_map.1 (nodup_ranked distinct term)
  exact (sorted.and differ).imp fun both => Row.precedes_of_closer both.1 both.2

instance : Std.Irrefl fun a b : Row => a.profile.Precedes term b.profile :=
  ⟨fun a => Profile.Precedes.irrefl term a.profile⟩

instance : Std.Antisymm fun a b : Row => a.profile.Precedes term b.profile :=
  ⟨fun a _ hab hba => (Profile.Precedes.irrefl term a.profile (hab.trans hba)).elim⟩

/-- Fewer rows are in the same order. -/
theorem ranked_filter (distinct : t.DistinctIds) (keep : Row → Bool) :
    Table.ranked term (t.filter keep) = (t.ranked term).filter keep := by
  have sorted := (pairwise_ranked distinct term).filter keep
  refine (pairwise_ranked (distinct.filter keep) term).eq_of_mem_iff sorted fun row => ?_
  rw [mem_ranked, List.mem_filter, List.mem_filter, mem_ranked]

/-- The order depends on the set of profiles alone. -/
theorem map_profile_ranked (distinct : t.DistinctIds) (distinct' : t'.DistinctIds)
    (same : ∀ p, p ∈ t.map Row.profile ↔ p ∈ t'.map Row.profile) :
    (t.ranked term).map Row.profile = (t'.ranked term).map Row.profile := by
  have sorted := List.pairwise_map.2 (pairwise_ranked distinct term)
  have sorted' := List.pairwise_map.2 (pairwise_ranked distinct' term)
  refine sorted.eq_of_mem_iff sorted' fun p => ?_
  rw [((perm_ranked term t).map _).mem_iff, ((perm_ranked term t').map _).mem_iff, same]

/-! ## The best rows -/

theorem length_best (term : String) (t : Table) :
    (t.best term).length = min searchLimit t.length := by
  rw [Table.best, List.length_take, (perm_ranked term t).length_eq]

theorem nodup_best (distinct : t.DistinctIds) (term : String) : ((t.best term).map (·.id)).Nodup :=
  (nodup_ranked distinct term).sublist ((List.take_sublist _ _).map _)

theorem pairwise_best (distinct : t.DistinctIds) (term : String) :
    (t.best term).Pairwise fun a b => a.profile.Precedes term b.profile :=
  (pairwise_ranked distinct term).sublist (List.take_sublist _ _)

theorem mem_of_mem_best {row : Row} (h : row ∈ t.best term) : row ∈ t :=
  mem_ranked.1 (List.mem_of_mem_take h)

/-- Rows that are not among the best have no part in these. -/
theorem best_filter (distinct : t.DistinctIds) {keep : Row → Bool}
    (kept : ∀ row ∈ t.best term, keep row = true) :
    Table.best term (t.filter keep) = t.best term := by
  rw [Table.best, ranked_filter distinct, take_filter_of_forall kept, Table.best]

/-- A row that is not among the best is behind each of them. -/
theorem precedes_of_not_mem_best (distinct : t.DistinctIds) {found row : Row}
    (hfound : found ∈ t.best term) (hrow : row ∈ t)
    (missed : row ∉ t.best term) : found.profile.Precedes term row.profile := by
  have whole := List.take_append_drop searchLimit (t.ranked term)
  have sorted := pairwise_ranked distinct term
  rw [← whole] at sorted
  have behind : row ∈ (t.ranked term).drop searchLimit := by
    have ranked : row ∈ t.ranked term := mem_ranked.2 hrow
    rw [← whole, List.mem_append] at ranked
    exact ranked.resolve_left missed
  exact (List.pairwise_append.1 sorted).2.2 found hfound row behind

end UserDirectory.Store
