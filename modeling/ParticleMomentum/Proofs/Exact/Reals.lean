import Mathlib
import ParticleMomentum.Fault

/-!
# Exact arithmetic

The reading of the formulas over the real numbers: every operation is the exact one, every number is
finite, and no numeral is special. A quotient by zero is refused where the formulas refuse it.

The arithmetic of the reals is the one that they have anyway, and expressions over them are to be found
in that form; the instances that come with `Arithmetic` are therefore tried last.
-/

namespace ParticleMomentum

attribute [instance (low)] Arithmetic.toAdd Arithmetic.toSub Arithmetic.toMul Arithmetic.toDiv
  Arithmetic.toNeg Arithmetic.toOfScientific Arithmetic.toLE Arithmetic.toLT

/-- The numerals of the formulas, each an instance by name so that it bears no proof of its own. -/
instance two_atLeastTwo : Nat.AtLeastTwo 2 := ⟨by decide⟩

instance three_atLeastTwo : Nat.AtLeastTwo 3 := ⟨by decide⟩

instance four_atLeastTwo : Nat.AtLeastTwo 4 := ⟨by decide⟩

instance five_atLeastTwo : Nat.AtLeastTwo 5 := ⟨by decide⟩

instance ten_atLeastTwo : Nat.AtLeastTwo 10 := ⟨by decide⟩

namespace Arithmetic

noncomputable instance real : Arithmetic ℝ where
  decidableLE _ _ := inferInstance
  decidableLT _ _ := inferInstance
  sqrt := Real.sqrt
  power x k := x ^ k
  pi := Real.pi
  isFinite _ := true
  ofInt n := n
  ofDecimal digits exponent := digits * 10 ^ exponent
  ofSpecial? _ := none
  truncate? x := some (if 0 ≤ x then ⌊x⌋ else ⌈x⌉)
  compareInt? x n := some (cmp x n)
  toSingle := id

variable {x y q : ℝ}

theorem zero_literal : (0.0 : ℝ) = 0 := by norm_num

theorem one_literal : (1.0 : ℝ) = 1 := by norm_num

theorem two_literal : (2.0 : ℝ) = 2 := by norm_num

theorem three_literal : (3.0 : ℝ) = 3 := by norm_num

theorem five_literal : (5.0 : ℝ) = 5 := by norm_num

theorem half_literal : (0.5 : ℝ) = 1 / 2 := by norm_num

@[simp] theorem sqrt_real : sqrt x = Real.sqrt x := rfl

@[simp] theorem power_real (k : Nat) : power x k = x ^ k := rfl

@[simp] theorem pi_real : (pi : ℝ) = Real.pi := rfl

@[simp] theorem isFinite_real : isFinite x = true := rfl

@[simp] theorem ofInt_real (n : Int) : (ofInt n : ℝ) = n := rfl

@[simp] theorem same_real_iff : same x y = true ↔ x = y := by
  rw [same, Bool.and_eq_true, decide_eq_true_iff, decide_eq_true_iff]
  exact le_antisymm_iff.symm

@[simp] theorem isZero_real_iff : isZero x = true ↔ x = 0 := by
  rw [isZero, same_real_iff, zero_literal]

theorem positivePart_real : positivePart x = max x 0 := by
  rw [positivePart, zero_literal]
  rcases lt_or_ge 0 x with h | h
  · rw [if_pos h, max_eq_left h.le]
  · rw [if_neg h.not_gt, if_pos h, max_eq_right h]

theorem mul_one_literal (x : ℝ) : x * 1.0 = x := by rw [one_literal, mul_one]

/-- A quotient is made exactly where the divisor is not zero. -/
theorem quotient_real_eq_ok_iff :
    (quotient x y : Except (Fault ℝ) ℝ) = .ok q ↔ y ≠ 0 ∧ q = x / y := by
  rw [quotient]
  split
  · next h => simp [isZero_real_iff.mp h]
  · next h =>
    rw [isZero_real_iff] at h
    rw [Except.ok.injEq]
    exact ⟨fun hq => ⟨h, hq.symm⟩, fun hq => hq.2.symm⟩

theorem quotient_real (h : y ≠ 0) : (quotient x y : Except (Fault ℝ) ℝ) = .ok (x / y) :=
  quotient_real_eq_ok_iff.mpr ⟨h, rfl⟩

theorem exists_quotient (h : y ≠ 0) : ∃ q, (quotient x y : Except (Fault ℝ) ℝ) = .ok q :=
  ⟨x / y, quotient_real h⟩

theorem boundedPower_real (k : Nat) : (boundedPower x k : Except (Fault ℝ) ℝ) = .ok (x ^ k) := by
  simp [boundedPower]

end Arithmetic

end ParticleMomentum
