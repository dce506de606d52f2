import Mathlib.Algebra.Group.Int.Defs
import Mathlib.Algebra.Group.Nat.Defs

/-!
# A number over itself

The positive integers below 2 ^ 64 are rounded to floating-point numbers whose mantissa has 53
digits. Such a number is read back from its bits as one, and over itself it is exactly one, whatever
its mantissa and exponent are.
-/
namespace UserDirectory.Number

open Float.Model Float.Model.UnpackedFloat

/-! ## Shifted mantissas -/

theorem log2_div_two_pow {m k : Nat} (h : k ≤ m.log2) (pos : m ≠ 0) :
    (m / 2 ^ k).log2 = m.log2 - k := by
  have low := Nat.log2_self_le pos
  have high := Nat.lt_log2_self (n := m)
  have split : 2 ^ m.log2 = 2 ^ (m.log2 - k) * 2 ^ k := by rw [← Nat.pow_add, Nat.sub_add_cancel h]
  have least : 2 ^ (m.log2 - k) ≤ m / 2 ^ k := by
    rw [Nat.le_div_iff_mul_le (Nat.two_pow_pos k), ← split]
    exact low
  have most : m / 2 ^ k < 2 ^ (m.log2 - k + 1) := by
    rw [Nat.div_lt_iff_lt_mul (Nat.two_pow_pos k), Nat.pow_succ, Nat.mul_right_comm, ← split,
      ← Nat.pow_succ]
    exact high
  exact (Nat.log2_eq_iff (Nat.ne_of_gt (Nat.lt_of_lt_of_le (Nat.two_pow_pos _) least))).2
    ⟨least, most⟩

/-- What is shifted out of a mantissa is cut off. -/
theorem mantissa_shiftRight (em : ExtendedMantissa) (k : Nat) :
    (em >>> k).mantissa = em.mantissa / 2 ^ k := by
  induction k with
  | zero => exact (Nat.div_one _).symm
  | succ k ih =>
    show (em >>> k).mantissa / 2 = _
    rw [ih, Nat.div_div_eq_div_mul, Nat.pow_succ]

theorem mantissa_ofMantissaAndAccuracy (m : Nat) (accuracy : Accuracy) :
    (ExtendedMantissa.ofMantissaAndAccuracy m accuracy).mantissa = m := by
  rcases accuracy with _ | (_ | _ | _) <;> rfl

theorem mantissaBits_binary64 : Format.binary64.mantissaBits = 53 := rfl

theorem ne_zero_of_log2 {m : Nat} (h : 0 < m.log2) : m ≠ 0 := by
  rintro rfl
  exact absurd h (by decide)

/-- A mantissa of 53 digits or more is cut to one of 53, if that needs no smaller exponent than
there is. -/
theorem shiftToTargetExponent_long {m : Nat} {e : Int} (accuracy : Accuracy) (long : 52 ≤ m.log2)
    (low : -1074 ≤ m.log2 + e - 52) :
    (shiftToTargetExponent Format.binary64 m e accuracy).1.mantissa.log2 = 52 ∧
      (shiftToTargetExponent Format.binary64 m e accuracy).2 = m.log2 + e - 52 := by
  have target : Format.binary64.targetExponent (totalExponent m e) = m.log2 + e - 52 := by
    simp only [Format.targetExponent, totalExponent, mantissaBits_binary64, Format.minExponent]
    omega
  have amount : (m.log2 + e - 52 - e).toNat = m.log2 - 52 := by omega
  simp only [shiftToTargetExponent, target, shiftToExponent, amount, mantissa_shiftRight,
    mantissa_ofMantissaAndAccuracy]
  rw [log2_div_two_pow (by omega) (ne_zero_of_log2 (by omega))]
  omega

/-- Rounding leaves a mantissa as it is or counts one more. -/
theorem roundedMantissa_bounds (em : ExtendedMantissa) :
    em.mantissa ≤ em.roundedMantissa ∧ em.roundedMantissa ≤ em.mantissa + 1 := by
  have parity := Nat.mod_lt em.mantissa (by decide : 2 > 0)
  unfold ExtendedMantissa.roundedMantissa
  rcases em.accuracy with _ | (_ | _ | _) <;> simp only [Accuracy.roundToNearestEven] <;> omega

/-! ## Rounded numbers -/

/-- A finite number with a mantissa of 53 digits. -/
def IsNormal (f : UnpackedFloat) (e : Int) : Prop := ∃ s m pos, f = .finite s m e pos ∧ m.log2 = 52

theorem isNormal_roundWithAccuracy (s : Sign) {m : Nat} {e : Int} (accuracy : Accuracy)
    (long : 52 ≤ m.log2) (low : -1074 ≤ m.log2 + e - 52) :
    ∃ e', (e' = m.log2 + e - 52 ∨ e' = m.log2 + e - 51) ∧
      IsNormal (roundWithAccuracy Format.binary64 s m e accuracy) e' := by
  obtain ⟨digits, exponent⟩ := shiftToTargetExponent_long accuracy long low
  obtain ⟨least, most⟩ :=
    roundedMantissa_bounds (shiftToTargetExponent Format.binary64 m e accuracy).1
  rw [roundWithAccuracy]
  generalize shiftToTargetExponent Format.binary64 m e accuracy = first at *
  obtain ⟨em, e₁⟩ := first
  dsimp only at *
  -- The rounded mantissa has 53 digits, or one more where it was rounded up to a power of two.
  have bounds := (Nat.log2_eq_iff (ne_zero_of_log2 (by omega))).1 digits
  have rounded : em.roundedMantissa ≠ 0 := by omega
  have long₁ : 52 ≤ em.roundedMantissa.log2 := (Nat.le_log2 rounded).2 (by omega)
  have short₁ : em.roundedMantissa.log2 < 54 := (Nat.log2_lt rounded).2 (by omega)
  obtain ⟨digits₁, exponent₁⟩ := shiftToTargetExponent_long (e := e₁) .exact long₁ (by omega)
  have nonzero := ne_zero_of_log2 (Nat.lt_of_lt_of_eq (by decide) digits₁.symm)
  rw [dif_neg nonzero]
  exact ⟨_, by omega, s, _, _, rfl, digits₁⟩

/-! ## Bits -/

/-- The implicit digit comes first. -/
theorem log2_toNat_append (fraction : BitVec 52) : (1#1 ++ fraction).toNat.log2 = 52 := by
  have bound := fraction.isLt
  have value : (1#1 ++ fraction).toNat = 2 ^ 52 + fraction.toNat := by
    rw [BitVec.toNat_append, ← Nat.shiftLeft_add_eq_or_of_lt bound]
    rfl
  rw [value, Nat.log2_eq_iff (by omega)]
  omega

/-- Bits are read as a number with a mantissa of 53 digits if those of the exponent are neither all
set nor all clear. -/
theorem isNormal_unpack {b : BitVec Format.binary64.numBits} {exponent : BitVec 11} {e : Int}
    (read : unpackExponent b = exponent) (notLast : exponent ≠ -1#11) (notFirst : exponent ≠ 0#11)
    (value : (exponent.toNat : Int) -
      (Format.binary64.exponentBias + Format.binary64.mantissaBitsWithoutImplicit) = e) :
    IsNormal (UnpackedFloat.unpack Format.binary64 b) e := by
  subst read value
  unfold UnpackedFloat.unpack
  rw [if_neg notLast, if_neg notFirst]
  exact ⟨_, _, _, rfl, log2_toNat_append _⟩

/-- What is kept of a number with a mantissa of 53 digits is such a number. -/
theorem isNormal_unpack_pack {f : UnpackedFloat} {e : Int} (normal : IsNormal f e) (low : -1074 ≤ e)
    (high : e ≤ 971) :
    IsNormal (UnpackedFloat.unpack Format.binary64 (UnpackedFloat.pack Format.binary64 f)) e := by
  obtain ⟨s, m, pos, rfl, digits⟩ := normal
  obtain ⟨biased, same⟩ : ∃ biased : Nat, (biased : Int) = e + 1075 := ⟨(e + 1075).toNat, by omega⟩
  have code :
      (e + Format.binary64.exponentBias + Format.binary64.mantissaBitsWithoutImplicit).toNat =
        biased := by
    simp only [Format.exponentBias]
    omega
  have packed : UnpackedFloat.pack Format.binary64 (.finite s m e pos) =
      packComponents Format.binary64 s (BitVec.ofNat 11 biased) (BitVec.ofNat 52 m) := by
    show (if _ ≤ _ then _ else if _ = _ then _ else _) = _
    rw [code, if_neg (by simp only; omega), if_pos (by rw [digits]; rfl)]
  have value : (BitVec.ofNat 11 biased).toNat = biased := Nat.mod_eq_of_lt (by omega)
  have notLast : BitVec.ofNat 11 biased ≠ -1#11 := by
    intro last
    rw [last, show (-1#11).toNat = 2047 by decide] at value
    omega
  have notFirst : BitVec.ofNat 11 biased ≠ 0#11 := by
    intro first
    rw [first, BitVec.toNat_zero] at value
    omega
  have exponent : ((BitVec.ofNat 11 biased).toNat : Int) -
      (Format.binary64.exponentBias + Format.binary64.mantissaBitsWithoutImplicit) = e := by
    simp only [value, Format.exponentBias]
    omega
  rw [packed]
  exact isNormal_unpack unpackExponent_packComponents notLast notFirst exponent

theorem IsNormal.unpack_ofModel {f : UnpackedFloat} {e : Int} (normal : IsNormal f e)
    (low : -1074 ≤ e) (high : e ≤ 971) : IsNormal (Float.ofModel (.pack f)).toModel.unpack e :=
  isNormal_unpack_pack normal low high

/-! ## Positive integers -/

theorem log2_shiftLeft {n : Nat} (pos : n ≠ 0) (k : Nat) : (n <<< k).log2 = n.log2 + k := by
  have low := Nat.log2_self_le pos
  have high := Nat.lt_log2_self (n := n)
  rw [Nat.shiftLeft_eq, Nat.log2_eq_iff (Nat.mul_ne_zero pos (Nat.ne_of_gt (Nat.two_pow_pos k))),
    Nat.add_right_comm, Nat.pow_add, Nat.pow_add]
  exact ⟨Nat.mul_le_mul_right _ low, Nat.mul_lt_mul_of_pos_right high (Nat.two_pow_pos k)⟩

theorem isNormal_round (s : Sign) {n : Nat} (pos : n ≠ 0) (small : n < 2 ^ 53) :
    ∃ e, -52 ≤ e ∧ e ≤ 1 ∧ IsNormal (UnpackedFloat.round Format.binary64 s n 0) e := by
  have digits : n.log2 < 53 := (Nat.log2_lt pos).2 small
  have target : Format.binary64.targetExponent (totalExponent n 0) = n.log2 - 52 := by
    simp only [Format.targetExponent, totalExponent, mantissaBits_binary64, Format.minExponent]
    omega
  have amount : (0 - ((n.log2 : Int) - 52)).toNat = 52 - n.log2 := by omega
  have long : (n <<< (52 - n.log2)).log2 = 52 := by
    rw [log2_shiftLeft pos]
    omega
  obtain ⟨e, reached, normal⟩ := isNormal_roundWithAccuracy s (e := 0 - (52 - n.log2 : Nat)) .exact
    (Nat.le_of_eq long.symm) (by omega)
  rw [UnpackedFloat.round, target, decreaseExponent, amount]
  exact ⟨e, by omega, by omega, normal⟩

/-- A number times one keeps its exponent but for what rounding may add. -/
theorem isNormal_mul_one {f : UnpackedFloat} {e : Int} (normal : IsNormal f e) (low : -1074 ≤ e) :
    ∃ e', (e' = e ∨ e' = e + 1) ∧
      IsNormal
        (UnpackedFloat.mul Format.binary64 f (Float.ofBits 0x3FF0000000000000).toModel.unpack)
          e' := by
  obtain ⟨s, m, pos, rfl, digits⟩ := normal
  have one : (Float.ofBits 0x3FF0000000000000).toModel.unpack =
    .finite .positive (2 ^ 52) (-52) (by decide) := rfl
  have long : (m * 2 ^ 52).log2 = 104 := by
    rw [← Nat.shiftLeft_eq, log2_shiftLeft (Nat.ne_of_gt pos), digits]
  obtain ⟨e', reached, product⟩ :=
    isNormal_roundWithAccuracy (s * .positive) (m := m * 2 ^ 52) (e := e + -52) .exact
      (by omega) (by omega)
  rw [one]
  exact ⟨e', by omega, product⟩

theorem isNormal_toFloat {n : Nat} (pos : n ≠ 0) (small : n < 2 ^ 64) :
    ∃ e, IsNormal n.toFloat.toModel.unpack e := by
  have digits : n.log2 < 64 := (Nat.log2_lt pos).2 small
  by_cases fast : n < 2 ^ 53
  · obtain ⟨e, low, high, normal⟩ := isNormal_round .positive pos fast
    obtain ⟨e', reached, product⟩ :=
      isNormal_mul_one (isNormal_unpack_pack normal (by omega) (by omega)) (by omega)
    have whole : n.toUInt64.toFloat =
        .ofModel (.pack (UnpackedFloat.round Format.binary64 .positive n 0)) := by
      show Float.ofModel
        (.pack (UnpackedFloat.normalize Format.binary64 n.toUInt64.toNat 0 .positive)) = _
      rw [Nat.toUInt64, UInt64.toNat_ofNat', Nat.mod_eq_of_lt small, UnpackedFloat.normalize,
        Int.compare_eq_gt.2 (by omega), Int.toNat_natCast]
    have made : n.toFloat = n.toUInt64.toFloat * Float.ofBits 0x3FF0000000000000 :=
      dif_pos ⟨fast, by decide⟩
    rw [made, whole]
    exact ⟨e', product.unpack_ofModel (by omega) (by omega)⟩
  · have made : n.toFloat = .ofModel (Float.Model.ofScientific n 0) :=
      dif_neg fun both => fast both.1
    have long : (n <<< 53 * 1).log2 = n.log2 + 53 := by
      rw [Nat.mul_one, log2_shiftLeft pos]
    obtain ⟨e, reached, normal⟩ :=
      isNormal_roundWithAccuracy (.positive * .positive) (m := n <<< 53 * 1)
        (e := -53 + 0) .exact (by omega) (by omega)
    have product : UnpackedFloat.ofScientific Format.binary64 n 0 =
        roundWithAccuracy Format.binary64 (.positive * .positive) (n <<< 53 * 1) (-53 + 0)
          .exact := by
      have large : ¬ (0 : Int) < -(2 ^ Format.binary64.exponentBits + n.log2) := by
        rw [show (2 : Int) ^ Format.binary64.exponentBits = 2048 from rfl]
        omega
      rw [UnpackedFloat.ofScientific, dif_neg pos, if_neg (by decide), if_neg large,
        if_pos (by decide)]
      rfl
    rw [made, Float.Model.ofScientific, product]
    exact ⟨e, normal.unpack_ofModel (by omega) (by omega)⟩

/-- A positive integer over itself is one. -/
theorem toFloat_div_self {n : Nat} (pos : n ≠ 0) (small : n < 2 ^ 64) :
    n.toFloat / n.toFloat = 1.0 := by
  obtain ⟨e, s, m, mpos, unpacked, -⟩ := isNormal_toFloat pos small
  show Float.ofModel (.pack (UnpackedFloat.div Format.binary64 n.toFloat.toModel.unpack
    n.toFloat.toModel.unpack)) = _
  rw [unpacked]
  have core : divCore Format.binary64 m e m e = (2 ^ 53, -53, .exact) := by
    have target : Format.binary64.targetExponent (totalExponent m e - totalExponent m e) = -53 := by
      rw [Int.sub_self]
      decide
    rw [divCore, target, Int.sub_self]
    show (m <<< 53 / m, -53, accuracyOfFraction (m <<< 53 % m) m) = _
    rw [Nat.shiftLeft_eq, Nat.mul_div_cancel_left _ mpos, Nat.mul_mod_right]
    rfl
  have divided : UnpackedFloat.div Format.binary64 (.finite s m e mpos) (.finite s m e mpos) =
      let quotient := divCore Format.binary64 m e m e
      roundWithAccuracy Format.binary64 (s / s) quotient.1 quotient.2.1 quotient.2.2 := rfl
  rw [divided, core]
  cases s <;> decide

end UserDirectory.Number
