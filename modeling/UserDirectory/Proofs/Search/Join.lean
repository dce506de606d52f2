import Mathlib.Data.Finset.Union
import Mathlib.Data.List.Sort
import UserDirectory.Proofs.Search.Overlap
import UserDirectory.Proofs.Search.Word
import UserDirectory.Proofs.Text.Case
import UserDirectory.Store.Table

/-!
# Trigrams of texts with blanks between them

Neither small letters nor words reach across a blank, so a text that is joined of others has their
trigrams and no more. Texts with the same trigrams have one list of these and are equally similar to
any other text.
-/
namespace UserDirectory.Search

open Text

variable {a b : String}

/-! ## The trigrams as a set -/

theorem trigramSet_eq_toFinset (s : String) :
    trigramSet s = ((words (lower s).toList).flatMap wordTrigrams).toFinset := by
  ext t
  rw [trigramSet, List.mem_toFinset, List.mem_toFinset, mem_trigrams, List.mem_flatMap]

theorem mem_trigramSet {s : String} {t : Trigram} :
    t ∈ trigramSet s ↔ ∃ w ∈ words (lower s).toList, t ∈ wordTrigrams w := by
  rw [trigramSet, List.mem_toFinset, mem_trigrams]

theorem pairwise_trigrams (s : String) : (trigrams s).Pairwise fun a b => a.key < b.key := by
  have sorted := @List.pairwise_mergeSort _ Trigram.le (fun _ _ _ => Trigram.le_trans)
    Trigram.le_total ((words (lower s).toList).flatMap wordTrigrams)
  refine (Order.pairwise_dropRepeats (fun _ _ => Trigram.le_antisymm) sorted).imp ?_
  rintro a b ⟨le, differ⟩
  rw [Trigram.le, decide_eq_true_iff] at le
  exact Nat.lt_of_le_of_ne le fun same => differ (Trigram.key_injective same)

/-- The list of the trigrams is that of its set. -/
theorem trigrams_eq_iff : trigrams a = trigrams b ↔ trigramSet a = trigramSet b := by
  refine ⟨fun same => by rw [trigramSet, trigramSet, same], fun same => ?_⟩
  have : Std.Irrefl fun a b : Trigram => a.key < b.key := ⟨fun _ => Nat.lt_irrefl _⟩
  have : Std.Antisymm fun a b : Trigram => a.key < b.key :=
    ⟨fun _ _ hab hba => absurd hab (Nat.lt_asymm hba)⟩
  refine (pairwise_trigrams a).eq_of_mem_iff (pairwise_trigrams b) fun t => ?_
  rw [← List.mem_toFinset, ← List.mem_toFinset]
  exact Finset.ext_iff.1 same t

theorem similarity_congr {a' b' : String} (left : trigrams a = trigrams a')
    (right : trigrams b = trigrams b') :
    similarity a b = similarity a' b' := by
  simp only [similarity, left, right]

/-! ## Joined texts -/

theorem words_lower_append_blank (a b : String) :
    words (lower (a ++ " " ++ b)).toList = words (lower a).toList ++ words (lower b).toList := by
  have blank : isAlphanumeric ' ' = false := by decide
  rw [lower_append_blank, ← words_append_break blank]
  simp

theorem trigramSet_append_blank (a b : String) :
    trigramSet (a ++ " " ++ b) = trigramSet a ∪ trigramSet b := by
  ext t
  simp only [Finset.mem_union, mem_trigramSet, words_lower_append_blank, List.mem_append,
    or_and_right, exists_or]

theorem trigramSet_empty : trigramSet "" = ∅ := trigramSet_eq_toFinset ""

/-- Of texts joined by blanks it only counts which they are. -/
theorem trigramSet_intercalate (l : List String) :
    trigramSet (" ".intercalate l) = l.toFinset.biUnion trigramSet := by
  induction l with
  | nil => exact trigramSet_empty
  | cons a l ih =>
    cases l with
    | nil => simp
    | cons b l =>
      rw [String.intercalate_cons_cons, trigramSet_append_blank, ih, ← Finset.biUnion_insert,
        ← List.toFinset_cons]

/-- Joined texts have the same trigrams in another order, and if some stand there again. -/
theorem trigrams_intercalate_congr {l l' : List String} (same : ∀ a, a ∈ l ↔ a ∈ l') :
    trigrams (" ".intercalate l) = trigrams (" ".intercalate l') := by
  have members : l.toFinset = l'.toFinset := by
    ext a
    rw [List.mem_toFinset, List.mem_toFinset, same]
  rw [trigrams_eq_iff, trigramSet_intercalate, trigramSet_intercalate, members]

theorem trigramSet_haystack (row : Store.Row) :
    trigramSet row.haystack = trigramSet row.name ∪ trigramSet (row.email.getD "") :=
  trigramSet_append_blank _ _

end UserDirectory.Search
