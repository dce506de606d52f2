import Mathlib.Algebra.Order.Field.Rat
import Mathlib.Data.Finset.Card
import Mathlib.Tactic.Ring
import UserDirectory.Proofs.Order.Ascending
import UserDirectory.Search.Trigram

/-!
# Similarity as the overlap of two sets

The trigrams of a text are a set. The similarity of two texts is the number of the trigrams that are
in both sets over the number of those that are in either, and their distance is what is missing to
one. Comparing similarities compares these fractions, so the more similar text is the one at the
smaller distance.
-/
namespace UserDirectory.Search

/-! ## Sets of trigrams -/

namespace Trigram

theorem toNat_lt (c : Char) : c.toNat < 0x200000 := by
  rcases c.valid with small | ⟨-, small⟩ <;> exact Nat.lt_trans small (by decide)

theorem key_injective {a b : Trigram} (h : a.key = b.key) : a = b := by
  obtain ⟨a₁, a₂, a₃⟩ := a
  obtain ⟨b₁, b₂, b₃⟩ := b
  have first := toNat_lt a₂
  have second := toNat_lt a₃
  have third := toNat_lt b₂
  have fourth := toNat_lt b₃
  simp only [key] at h
  have firsts : a₁.toNat = b₁.toNat := by omega
  have seconds : a₂.toNat = b₂.toNat := by omega
  have thirds : a₃.toNat = b₃.toNat := by omega
  rw [Char.toNat_inj.1 firsts, Char.toNat_inj.1 seconds, Char.toNat_inj.1 thirds]

theorem le_antisymm {a b : Trigram} (hab : a.le b = true) (hba : b.le a = true) : a = b := by
  simp only [le, decide_eq_true_eq] at hab hba
  exact key_injective (Nat.le_antisymm hab hba)

theorem le_trans {a b c : Trigram} (hab : a.le b = true) (hbc : b.le c = true) : a.le c = true := by
  simp only [le, decide_eq_true_eq] at *
  exact Nat.le_trans hab hbc

theorem le_total (a b : Trigram) : (a.le b || b.le a) = true := by
  simp only [le, Bool.or_eq_true, decide_eq_true_eq]
  exact Nat.le_total a.key b.key

end Trigram

theorem nodup_trigrams (s : String) : (trigrams s).Nodup := by
  exact @Order.nodup_ascending _ _ Trigram.le (fun _ _ _ => Trigram.le_trans) Trigram.le_total
    (fun _ _ => Trigram.le_antisymm) _

/-- The trigrams of a text. -/
def trigramSet (s : String) : Finset Trigram := (trigrams s).toFinset

theorem shared_eq_card (a b : String) :
    shared (trigrams a) (trigrams b) = (trigramSet a ∩ trigramSet b).card := by
  have common : trigramSet a ∩ trigramSet b =
      ((trigrams a).filter (trigrams b).contains).toFinset := by
    ext t
    simp [trigramSet]
  rw [common, List.toFinset_card_of_nodup ((nodup_trigrams a).filter _), shared]

theorem card_trigramSet (s : String) : (trigramSet s).card = (trigrams s).length :=
  List.toFinset_card_of_nodup (nodup_trigrams s)

theorem length_either_eq_card (a b : String) : (trigrams a).length + (trigrams b).length -
    shared (trigrams a) (trigrams b) = (trigramSet a ∪ trigramSet b).card := by
  rw [shared_eq_card, ← card_trigramSet, ← card_trigramSet, Finset.card_union]

/-! ## Fractions -/

/-- The trigrams of both texts among those of either, as a fraction, which is zero where neither has
one. -/
def overlap (a b : String) : ℚ :=
  ((trigramSet a ∩ trigramSet b).card : ℚ) / ((trigramSet a ∪ trigramSet b).card : ℚ)

namespace Ratio

def toRat (r : Ratio) : ℚ := (r.part : ℚ) / (r.whole : ℚ)

theorem le_iff_toRat {r s : Ratio} : r.le s = true ↔ r.toRat ≤ s.toRat := by
  have hr : (0 : ℚ) < r.whole := Nat.cast_pos.2 r.whole_pos
  have hs : (0 : ℚ) < s.whole := Nat.cast_pos.2 s.whole_pos
  rw [le, decide_eq_true_iff, toRat, toRat, div_le_div_iff₀ hr hs]
  exact_mod_cast Iff.rfl

end Ratio

/-- Nothing of nothing is no part. -/
theorem Ratio.toRat_dite (part whole : Nat) :
    (if h : whole = 0 then ⟨0, 1, Nat.one_pos⟩ else ⟨part, whole, Nat.pos_of_ne_zero h⟩ :
      Ratio).toRat =
      (part : ℚ) / (whole : ℚ) := by
  by_cases none : whole = 0
  · simp [none, toRat]
  · simp [none, toRat]

theorem toRat_similarity (a b : String) : (similarity a b).toRat = overlap a b := by
  rw [similarity, Ratio.toRat_dite, length_either_eq_card, shared_eq_card, overlap]

/-- How far two texts are apart, from zero to one. -/
def exactDistance (a b : String) : ℚ := 1 - overlap a b

end UserDirectory.Search
