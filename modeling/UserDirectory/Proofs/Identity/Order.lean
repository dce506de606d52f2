import Mathlib.Data.List.Dedup
import Mathlib.Data.List.Sort
import Mathlib.Data.String.Basic
import UserDirectory.Proofs.Identity.UserId
import UserDirectory.Proofs.Order.Ascending

/-!
# Ids in the order of their texts

Ids are compared by provider and then by subject, texts as a whole. Both come to the same because no
provider's name begins another one's: two names differ before either ends, so the tilde and the
subject behind a name count only where the names are the same.
-/
namespace UserDirectory

/-! ## Texts that go on -/

variable {α : Type} [LinearOrder α] {a b x y : List α}

/-- Of lists that differ before either ends, what follows does not count. -/
theorem append_lt_append_iff (hab : ¬ a <+: b) (hba : ¬ b <+: a) : a ++ x < b ++ y ↔ a < b := by
  induction a generalizing b with
  | nil => exact absurd List.nil_prefix hab
  | cons c a ih =>
    cases b with
    | nil => exact absurd List.nil_prefix hba
    | cons d b =>
      rw [List.cons_append, List.cons_append, List.cons_lt_cons_iff, List.cons_lt_cons_iff]
      by_cases same : c = d
      · subst same
        rw [List.prefix_cons_inj] at hab hba
        rw [ih hab hba]
      · simp only [same, false_and, or_false]

theorem append_left_lt_iff : a ++ x < a ++ y ↔ x < y := by
  induction a with
  | nil => rfl
  | cons c a ih => rw [List.cons_append, List.cons_append, List.cons_lt_cons_self, ih]

/-! ## Providers -/

theorem Provider.name_injective {p q : Provider} (h : p.name = q.name) : p = q := by
  have known := Provider.ofName?_name p
  rw [h, Provider.ofName?_name] at known
  exact (Option.some.inj known).symm

/-- No provider's name begins another one's. -/
theorem Provider.eq_of_name_prefix {p q : Provider} (h : p.name.toList <+: q.name.toList) :
    p = q := by
  revert h
  cases p <;> cases q <;> decide

namespace UserId

/-! ## Ids -/

/-- One id is before another if its text is. -/
theorem before_iff {a b : UserId} : a.before b = true ↔ a.text < b.text := by
  simp only [before, Bool.or_eq_true, Bool.and_eq_true, decide_eq_true_eq, beq_iff_eq]
  rw [@String.lt_iff_toList_lt a.text, toList_text, toList_text]
  by_cases same : a.provider = b.provider
  · rw [same, append_left_lt_iff, List.cons_lt_cons_self, ← String.lt_iff_toList_lt]
    simp
  · have differ : a.provider.name ≠ b.provider.name := fun h => same (Provider.name_injective h)
    have apart : ¬ a.provider.name.toList <+: b.provider.name.toList :=
      fun h => same (Provider.eq_of_name_prefix h)
    have apart' : ¬ b.provider.name.toList <+: a.provider.name.toList :=
      fun h => same (Provider.eq_of_name_prefix h).symm
    rw [append_lt_append_iff apart apart', ← String.lt_iff_toList_lt]
    simp [differ]

/-- One id is not behind another if its text is not. -/
theorem not_before_iff {a b : UserId} : (!before b a) = true ↔ a.text ≤ b.text := by
  rw [Bool.not_eq_true', ← Bool.not_eq_true, before_iff, String.not_lt]

/-! ## Lists of ids -/

/-- Sorted ids have their texts in strict order. -/
theorem pairwise_text_sorted (ids : List UserId) : ((sorted ids).map text).Pairwise (· < ·) := by
  have inOrder : (ids.mergeSort fun a b => !before b a).Pairwise fun a b =>
      (!before b a) = true := by
    refine List.pairwise_mergeSort ?_ ?_ ids
    · intro a b c hab hbc
      exact not_before_iff.2 (String.le_trans (not_before_iff.1 hab) (not_before_iff.1 hbc))
    · intro a b
      rw [Bool.or_eq_true, not_before_iff, not_before_iff]
      exact String.le_total a.text b.text
  have strict := Order.pairwise_dropRepeats (fun a b hab hba => text_injective
    (String.le_antisymm (not_before_iff.1 hab) (not_before_iff.1 hba))) inOrder
  rw [List.pairwise_map]
  refine strict.imp ?_
  rintro a b ⟨notBehind, differ⟩
  exact lt_of_le_of_ne (not_before_iff.1 notBehind) fun same => differ (text_injective same)

/-- Sorting ids and printing them comes to the same as sorting their texts. -/
theorem map_text_sorted (ids : List UserId) :
    (sorted ids).map text = (ids.map text).dedup.mergeSort fun s t => s ≤ t := by
  have inOrder : ((ids.map text).dedup.mergeSort fun s t => s ≤ t).Pairwise (· ≤ ·) :=
    List.pairwise_mergeSort' (· ≤ ·) _
  have distinct : ((ids.map text).dedup.mergeSort fun s t => s ≤ t).Nodup :=
    (List.mergeSort_perm _ _).nodup_iff.2 (List.nodup_dedup _)
  have strict : ((ids.map text).dedup.mergeSort fun s t => s ≤ t).Pairwise (· < ·) :=
    (inOrder.and distinct).imp fun both => lt_of_le_of_ne both.1 both.2
  refine (pairwise_text_sorted ids).eq_of_mem_iff strict fun s => ?_
  rw [List.mem_mergeSort, List.mem_dedup, List.mem_map, List.mem_map]
  simp only [sorted, Order.mem_ascending]

end UserId

end UserDirectory
