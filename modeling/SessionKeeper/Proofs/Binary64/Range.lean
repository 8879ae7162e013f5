import Mathlib.Tactic.Ring
import SessionKeeper.Binary64.Basic

/-! # The range of finite numbers

A quotient is rounded to an infinity from the middle between the largest finite number and the power
of two above it on (`Binary64.overflow`), and to a finite number below that
(`Binary64.isFinite_ofRatio_iff`).
-/

namespace SessionKeeper.Binary64

variable {num den : Nat}

/-- The least number that is too large: the middle between the largest finite number and 2^1024. -/
def overflow : Nat := (4 * leastFull - 1) * 2 ^ 970

@[simp]
theorem powerUp_natCast (base exponent : Nat) : powerUp base exponent = base ^ exponent := rfl

@[simp]
theorem powerUp_neg_natCast (base exponent : Nat) : powerUp base (-(exponent : Int)) = 1 := by
  rw [powerUp, Int.toNat_neg_natCast]
  rfl

/-- A natural exponent is one of a full mantissa if the quotient reaches that far. -/
theorem natCast_le_fullExponent_iff (numPos : 0 < num) (denPos : 0 < den) (exponent : Nat) :
    (exponent : Int) ≤ fullExponent num den ↔ leastFull * (den * 2 ^ exponent) ≤ num := by
  rw [← Nat.mul_assoc]
  have full : leastFull = 2 ^ 52 := rfl
  have lowNum : 2 ^ num.log2 ≤ num := Nat.log2_self_le numPos.ne'
  have highNum : num < 2 ^ (num.log2 + 1) := Nat.lt_log2_self
  have lowDen : 2 ^ den.log2 ≤ den := Nat.log2_self_le denPos.ne'
  have highDen : den < 2 ^ (den.log2 + 1) := Nat.lt_log2_self
  unfold fullExponent
  rcases Nat.lt_trichotomy (exponent + den.log2 + 52) num.log2 with below | equal | above
  · have reached : leastFull * den * 2 ^ exponent ≤ num := by
      calc leastFull * den * 2 ^ exponent
          ≤ 2 ^ 52 * 2 ^ (den.log2 + 1) * 2 ^ exponent := by rw [full]; gcongr
        _ = 2 ^ (exponent + den.log2 + 52 + 1) := by rw [← pow_add, ← pow_add]; congr 1; omega
        _ ≤ 2 ^ num.log2 := Nat.pow_le_pow_right (by decide) below
        _ ≤ num := lowNum
    refine iff_of_true ?_ reached
    simp only
    split <;> omega
  · have guess : (num.log2 : Int) - den.log2 - 52 = exponent := by omega
    have tests : reaches num den leastFull exponent = true ↔
        leastFull * den * 2 ^ exponent ≤ num := by
      simp [reaches]
    rw [guess]
    simp only [tests]
    split <;> omega
  · have unreached : num < leastFull * den * 2 ^ exponent := by
      calc num < 2 ^ (num.log2 + 1) := highNum
        _ ≤ 2 ^ (52 + den.log2 + exponent) := Nat.pow_le_pow_right (by decide) (by omega)
        _ = 2 ^ 52 * 2 ^ den.log2 * 2 ^ exponent := by rw [pow_add, pow_add]
        _ ≤ leastFull * den * 2 ^ exponent := by rw [full]; gcongr
    refine iff_of_false ?_ (by omega)
    simp only
    split <;> omega

/-! ## Rounding -/

/-- An even number is reached by rounding from half a unit below it on: a tie goes to it. -/
theorem le_roundDiv_iff (denPos : 0 < den) {half : Nat} (positive : 0 < half) :
    2 * half ≤ roundDiv num den ↔ 4 * (half * den) ≤ 2 * num + den := by
  have parts : den * (num / den) + num % den = num := Nat.div_add_mod num den
  have small : num % den < den := Nat.mod_lt num denPos
  rw [Nat.mul_comm half]
  unfold roundDiv
  generalize num / den = quotient at parts
  generalize num % den = rest at parts small
  rcases Nat.lt_trichotomy quotient (2 * half - 1) with below | rfl | above
  · have far : den * (quotient + 2) ≤ den * (2 * half) := Nat.mul_le_mul_left den (by omega)
    rw [Nat.mul_add, Nat.mul_left_comm] at far
    refine iff_of_false ?_ (by omega)
    simp only
    split <;> omega
  · have odd : (2 * half - 1) % 2 = 1 := by omega
    have near : den * (2 * half - 1) = 2 * (den * half) - den := by
      rw [Nat.mul_sub, Nat.mul_one, Nat.mul_left_comm]
    have large : den ≤ den * half := Nat.le_mul_of_pos_right den positive
    simp only [odd, gt_iff_lt, beq_self_eq_true, Bool.and_true, Bool.or_eq_true, decide_eq_true_eq,
      beq_iff_eq]
    split <;> omega
  · have far : den * (2 * half) ≤ den * quotient := Nat.mul_le_mul_left den (by omega)
    rw [Nat.mul_left_comm] at far
    refine iff_of_true ?_ (by omega)
    simp only
    split <;> omega

theorem roundDiv_le {bound : Nat} (below : num < bound * den) : roundDiv num den ≤ bound := by
  have small : num / den < bound := Nat.div_lt_of_lt_mul (by rwa [Nat.mul_comm])
  unfold roundDiv
  simp only
  split <;> omega

/-! ## Overflow -/

/-- What is half a unit below twice a full mantissa, at any exponent. -/
theorem half_below_full (den exponent : Nat) :
    2 * ((4 * leastFull - 1) * 2 ^ exponent * den) + den * 2 ^ (exponent + 1) =
      4 * (leastFull * (den * 2 ^ (exponent + 1))) := by
  calc 2 * ((4 * leastFull - 1) * 2 ^ exponent * den) + den * 2 ^ (exponent + 1)
      = (4 * leastFull - 1 + 1) * (den * 2 ^ (exponent + 1)) := by rw [pow_succ]; ring
    _ = 4 * leastFull * (den * 2 ^ (exponent + 1)) := rfl
    _ = 4 * (leastFull * (den * 2 ^ (exponent + 1))) := Nat.mul_assoc ..

/-- A full mantissa is half of one with the exponent before. -/
theorem full_succ (den exponent : Nat) :
    leastFull * (den * 2 ^ (exponent + 1)) = 2 * (leastFull * (den * 2 ^ exponent)) := by
  rw [pow_succ]
  ring

/-- A quotient is rounded to twice a full mantissa from half a unit below it on. -/
theorem roundDiv_eq_iff (denPos : 0 < den) {exponent : Nat}
    (below : num < leastFull * (den * 2 ^ (exponent + 2))) :
    roundDiv num (den * 2 ^ (exponent + 1)) = 2 * leastFull ↔
      (4 * leastFull - 1) * 2 ^ exponent * den ≤ num := by
  have unit : 0 < den * 2 ^ (exponent + 1) := Nat.mul_pos denPos (Nat.two_pow_pos _)
  have most : roundDiv num (den * 2 ^ (exponent + 1)) ≤ 2 * leastFull := by
    refine roundDiv_le ?_
    rwa [Nat.mul_assoc, ← full_succ]
  have reached : 2 * leastFull ≤ roundDiv num (den * 2 ^ (exponent + 1)) ↔ _ :=
    le_roundDiv_iff unit (by decide)
  have middle := half_below_full den exponent
  omega

/-- A quotient is rounded to a finite number unless its exponent is past that of finite numbers, or
gets past it by rounding. -/
theorem isFinite_ofRatio (numPos : 0 < num) (negative : Bool) {exponent : Int}
    (full : max (fullExponent num den) minExponent = exponent) :
    (ofRatio negative num den).isFinite = true ↔
      exponent < maxExponent ∨ exponent = maxExponent ∧
        roundDiv (num * powerUp 2 (-exponent)) (den * powerUp 2 exponent) ≠ 2 * leastFull := by
  have some : (num == 0) = false := by simpa using numPos.ne'
  unfold ofRatio
  simp only [some, Bool.false_eq_true, if_false, full]
  generalize roundDiv (num * powerUp 2 (-exponent)) (den * powerUp 2 exponent) = mantissa
  have finite (mantissa : Nat) (exponent : Int) :
      (if exponent > maxExponent then infinite negative
        else finite negative mantissa exponent).isFinite = true ↔ exponent ≤ maxExponent := by
    split <;> simp [isFinite] <;> omega
  by_cases carried : mantissa = 2 * leastFull
  · simp only [carried, beq_self_eq_true, if_true, finite]
    omega
  · simp only [beq_eq_false_iff_ne.mpr carried, Bool.false_eq_true, if_false, finite]
    omega

/-- A quotient is rounded to a finite number if it is below the middle between twice a full mantissa
with the greatest exponent and the number before that. -/
theorem isFinite_ofRatio_of_last (denPos : 0 < den) (negative : Bool) {before : Nat}
    (last : ((before + 1 : Nat) : Int) = maxExponent) :
    (ofRatio negative num den).isFinite = true ↔ num < (4 * leastFull - 1) * 2 ^ before * den := by
  rcases Nat.eq_zero_or_pos num with rfl | numPos
  · exact iff_of_true rfl (Nat.mul_pos (Nat.mul_pos (by decide) (Nat.two_pow_pos _)) denPos)
  have least : minExponent < maxExponent := by decide
  have reached := natCast_le_fullExponent_iff numPos denPos (before + 1)
  have beyond := natCast_le_fullExponent_iff numPos denPos (before + 2)
  have middle := half_below_full den before
  have range : leastFull * (den * 2 ^ (before + 2)) =
      2 * (leastFull * (den * 2 ^ (before + 1))) := full_succ den (before + 1)
  have unit : den * 2 ^ (before + 1) ≤ leastFull * (den * 2 ^ (before + 1)) :=
    Nat.le_mul_of_pos_left _ (by decide)
  rw [isFinite_ofRatio numPos negative rfl]
  rcases Int.lt_trichotomy (fullExponent num den) maxExponent with below | equal | above
  · have unreached : num < leastFull * (den * 2 ^ (before + 1)) := by omega
    exact iff_of_true (.inl (by omega)) (by omega)
  · have full : max (fullExponent num den) minExponent = ((before + 1 : Nat) : Int) := by omega
    have unpassed : num < leastFull * (den * 2 ^ (before + 2)) := by omega
    have rounded := roundDiv_eq_iff denPos unpassed
    rw [full, powerUp_natCast, powerUp_neg_natCast, Nat.mul_one, Ne, rounded]
    omega
  · have passed : leastFull * (den * 2 ^ (before + 2)) ≤ num := by omega
    refine iff_of_false ?_ ?_ <;> omega

/-- **What is rounded to a finite number.** A quotient is, just if it is below the middle between
the largest finite number and the power of two above it. -/
theorem isFinite_ofRatio_iff (denPos : 0 < den) (negative : Bool) :
    (ofRatio negative num den).isFinite = true ↔ num < overflow * den :=
  isFinite_ofRatio_of_last denPos negative rfl

theorem ofRatio_ne_nan (negative : Bool) (num den : Nat) : ofRatio negative num den ≠ nan := by
  unfold ofRatio
  simp only
  split
  · exact nofun
  · split <;> split <;> exact nofun

end SessionKeeper.Binary64
