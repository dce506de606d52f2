import Mathlib.Data.Int.Log
import Mathlib.Data.Rat.Floor
import Mathlib.Tactic.Linarith
import UserDirectory.Proofs.Search.Overlap

/-!
# Distances in 53 binary digits

A distance is computed by a division and a subtraction, each rounded to the nearest number of 53
binary digits. Exact distances from one text differ by more than both roundings can move them,
unless they are equal or a text has more than 2 ^ 25 trigrams. So rows are in the same order by
rounded and by exact distances.
-/
namespace UserDirectory.Search

/-! ## Rounding -/

/-- The nearest integer, and of two the even one. -/
def roundEven (x : ℚ) : ℤ :=
  if Int.fract x < 1 / 2 then ⌊x⌋
  else if 1 / 2 < Int.fract x then ⌊x⌋ + 1
  else if ⌊x⌋ % 2 = 0 then ⌊x⌋ else ⌊x⌋ + 1

theorem abs_roundEven_sub_le (x : ℚ) : |(roundEven x : ℚ) - x| ≤ 1 / 2 := by
  have split := Int.floor_add_fract x
  have nonneg := Int.fract_nonneg x
  have below := Int.fract_lt_one x
  rw [abs_le, roundEven]
  split_ifs <;> push_cast <;> constructor <;> linarith

/-- What one of the last of 53 binary digits counts. -/
def lastPlace (x : ℚ) : ℚ := 2 ^ (Int.log 2 x - 52)

/-- The nearest number of 53 binary digits. -/
def rounded (x : ℚ) : ℚ := roundEven (x / lastPlace x) * lastPlace x

theorem lastPlace_pos (x : ℚ) : 0 < lastPlace x := zpow_pos (by decide) _

theorem lastPlace_le {x : ℚ} (small : x < 2) : lastPlace x ≤ 1 / 2 ^ 52 := by
  have log : Int.log 2 x ≤ 0 := by
    by_cases pos : 0 < x
    · exact Int.lt_add_one_iff.1 ((Int.lt_zpow_iff_log_lt (by decide) pos).1 (by simpa using small))
    · exact (Int.log_of_right_le_zero 2 (not_lt.1 pos)).le
  calc lastPlace x ≤ 2 ^ (-52 : ℤ) := zpow_le_zpow_right₀ (by norm_num) (by omega)
    _ = 1 / 2 ^ 52 := by norm_num

theorem abs_rounded_sub_le {x : ℚ} (small : x < 2) : |rounded x - x| ≤ 1 / 2 ^ 53 := by
  have place := lastPlace_pos x
  have error : rounded x - x = (roundEven (x / lastPlace x) - x / lastPlace x) * lastPlace x := by
    rw [rounded]
    field_simp
  rw [error, abs_mul, abs_of_pos place]
  calc |(roundEven (x / lastPlace x) : ℚ) - x / lastPlace x| * lastPlace x
      ≤ 1 / 2 * (1 / 2 ^ 52) := by
        gcongr
        · exact abs_roundEven_sub_le _
        · exact lastPlace_le small
    _ = 1 / 2 ^ 53 := by norm_num

/-! ## Fractions that are far apart -/

/-- Different fractions are apart by one over the product of their wholes at least. -/
theorem Ratio.apart {r r' : Ratio} {n : ℕ} (small : r.whole ≤ n) (small' : r'.whole ≤ n)
    (less : r.toRat < r'.toRat) : r.toRat + 1 / (n * n) ≤ r'.toRat := by
  have pos : (0 : ℚ) < r.whole := Nat.cast_pos.2 r.whole_pos
  have pos' : (0 : ℚ) < r'.whole := Nat.cast_pos.2 r'.whole_pos
  have parts : (r.part * r'.whole + 1 : ℚ) ≤ r'.part * r.whole := by
    rw [toRat, toRat, div_lt_div_iff₀ pos pos'] at less
    exact_mod_cast less
  calc r.toRat + 1 / (n * n) ≤ r.toRat + 1 / (r.whole * r'.whole) := by gcongr
    _ = (r.part * r'.whole + 1) / (r.whole * r'.whole) := by
      rw [toRat]
      field_simp
    _ ≤ r'.part * r.whole / (r.whole * r'.whole) := by gcongr
    _ = r'.toRat := by
      rw [toRat]
      field_simp

theorem exists_ratio {a b : String} {n : ℕ} (pos : 0 < n)
    (small : (trigramSet a ∪ trigramSet b).card ≤ n) :
    ∃ r : Ratio, r.whole ≤ n ∧ r.toRat = overlap a b := by
  rcases Nat.eq_zero_or_pos (trigramSet a ∪ trigramSet b).card with none | some
  · exact ⟨⟨0, 1, Nat.one_pos⟩, pos, by simp [Ratio.toRat, overlap, none]⟩
  · exact ⟨⟨_, _, some⟩, small, rfl⟩

theorem overlap_nonneg (a b : String) : 0 ≤ overlap a b := by
  rw [overlap]
  positivity

theorem overlap_le_one (a b : String) : overlap a b ≤ 1 := by
  have part : (trigramSet a ∩ trigramSet b).card ≤ (trigramSet a ∪ trigramSet b).card :=
    Finset.card_le_card Finset.inter_subset_union
  exact div_le_one_of_le₀ (by exact_mod_cast part) (Nat.cast_nonneg _)

/-! ## Rounded distances -/

/-- The distance with both its steps rounded. -/
def roundedDistance (a b : String) : ℚ := rounded (1 - rounded (overlap a b))

theorem abs_roundedDistance_sub_le (a b : String) :
    |roundedDistance a b - exactDistance a b| ≤ 1 / 2 ^ 52 := by
  have nonneg := overlap_nonneg a b
  have quotient := abs_le.1 (abs_rounded_sub_le ((overlap_le_one a b).trans_lt one_lt_two))
  have difference := abs_le.1 (abs_rounded_sub_le (x := 1 - rounded (overlap a b)) (by linarith))
  rw [abs_le, roundedDistance, exactDistance]
  constructor <;> linarith

variable {a b c : String}

/-- Rounding keeps the order of distances between texts of not too many trigrams. -/
theorem roundedDistance_lt_iff (small : (trigramSet a ∪ trigramSet c).card ≤ 2 ^ 25)
    (small' : (trigramSet b ∪ trigramSet c).card ≤ 2 ^ 25) :
    roundedDistance a c < roundedDistance b c ↔ exactDistance a c < exactDistance b c := by
  obtain ⟨r, whole, same⟩ := exists_ratio (by decide) small
  obtain ⟨r', whole', same'⟩ := exists_ratio (by decide) small'
  have error := abs_le.1 (abs_roundedDistance_sub_le a c)
  have error' := abs_le.1 (abs_roundedDistance_sub_le b c)
  rw [exactDistance, ← same] at error
  rw [exactDistance, ← same'] at error'
  rw [exactDistance, exactDistance, ← same, ← same']
  rcases lt_trichotomy r.toRat r'.toRat with less | equal | more
  · have gap := Ratio.apart whole whole' less
    constructor <;> intro h <;> linarith
  · have alike : roundedDistance a c = roundedDistance b c := by
      rw [roundedDistance, roundedDistance, ← same, ← same', equal]
    simp only [alike, equal, lt_self_iff_false]
  · have gap := Ratio.apart whole' whole more
    constructor <;> intro h <;> linarith

theorem roundedDistance_eq_iff (small : (trigramSet a ∪ trigramSet c).card ≤ 2 ^ 25)
    (small' : (trigramSet b ∪ trigramSet c).card ≤ 2 ^ 25) :
    roundedDistance a c = roundedDistance b c ↔ exactDistance a c = exactDistance b c := by
  rw [le_antisymm_iff, le_antisymm_iff, ← not_lt, ← not_lt, ← not_lt, ← not_lt,
    roundedDistance_lt_iff small small', roundedDistance_lt_iff small' small]

end UserDirectory.Search
