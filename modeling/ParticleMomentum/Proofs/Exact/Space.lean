import ParticleMomentum.Proofs.Exact.Reals
import ParticleMomentum.Vector3

/-!
# Space

Over the real numbers the vectors of three components are a vector space, with the sums, differences and
multiples that the formulas use. The scalar product is linear on either side, and only the zero vector
has no length.
-/

namespace ParticleMomentum.Vector3

open Arithmetic

noncomputable instance : Zero (Vector3 ℝ) := ⟨zero⟩

noncomputable instance : Neg (Vector3 ℝ) := ⟨fun v => ⟨-v.x, -v.y, -v.z⟩⟩

noncomputable instance {β : Type} [SMul β ℝ] : SMul β (Vector3 ℝ) := ⟨fun s v => v.map (s • ·)⟩

variable (s d : ℝ) (u v w : Vector3 ℝ)

def toTriple : ℝ × ℝ × ℝ := (v.x, v.y, v.z)

theorem toTriple_injective : Function.Injective toTriple := by
  intro v w h
  simp only [toTriple, Prod.mk.injEq] at h
  exact Vector3.ext h.1 h.2.1 h.2.2

theorem toTriple_zero : toTriple 0 = 0 := by
  change ((0.0, 0.0, 0.0) : ℝ × ℝ × ℝ) = 0
  rw [zero_literal]
  rfl

noncomputable instance : AddCommGroup (Vector3 ℝ) :=
  Function.Injective.addCommGroup toTriple toTriple_injective toTriple_zero (fun _ _ => rfl)
    (fun _ => rfl) (fun _ _ => rfl) (fun _ _ => rfl) (fun _ _ => rfl)

noncomputable instance : Module ℝ (Vector3 ℝ) :=
  Function.Injective.module ℝ ⟨⟨toTriple, toTriple_zero⟩, fun _ _ => rfl⟩ toTriple_injective
    fun _ _ => rfl

/-! ## Components -/

@[simp] theorem x_zero : (0 : Vector3 ℝ).x = 0 := zero_literal

@[simp] theorem y_zero : (0 : Vector3 ℝ).y = 0 := zero_literal

@[simp] theorem z_zero : (0 : Vector3 ℝ).z = 0 := zero_literal

@[simp] theorem x_add : (v + w).x = v.x + w.x := rfl

@[simp] theorem y_add : (v + w).y = v.y + w.y := rfl

@[simp] theorem z_add : (v + w).z = v.z + w.z := rfl

@[simp] theorem x_sub : (v - w).x = v.x - w.x := rfl

@[simp] theorem y_sub : (v - w).y = v.y - w.y := rfl

@[simp] theorem z_sub : (v - w).z = v.z - w.z := rfl

@[simp] theorem x_smul : (s • v).x = s * v.x := rfl

@[simp] theorem y_smul : (s • v).y = s * v.y := rfl

@[simp] theorem z_smul : (s • v).z = s * v.z := rfl

/-! ## The operations of the formulas -/

@[simp] theorem zero_eq : (zero : Vector3 ℝ) = 0 := rfl

@[simp] theorem scale_eq : v.scale s = s • v := rfl

@[simp] theorem divide_eq : v.divide d = d⁻¹ • v := by
  ext <;> simp [divide, div_eq_inv_mul]

theorem dot_eq : v.dot w = v.x * w.x + v.y * w.y + v.z * w.z := rfl

theorem dot_comm : v.dot w = w.dot v := by
  rw [dot_eq, dot_eq]
  ring

@[simp] theorem dot_zero : v.dot 0 = 0 := by simp [dot_eq]

@[simp] theorem zero_dot : dot 0 v = 0 := by simp [dot_eq]

theorem dot_add : u.dot (v + w) = u.dot v + u.dot w := by
  simp only [dot_eq, x_add, y_add, z_add]
  ring

theorem sub_dot : (u - v).dot w = u.dot w - v.dot w := by
  simp only [dot_eq, x_sub, y_sub, z_sub]
  ring

@[simp] theorem dot_smul : v.dot (s • w) = s * v.dot w := by
  simp only [dot_eq, x_smul, y_smul, z_smul]
  ring

@[simp] theorem smul_dot : (s • v).dot w = s * v.dot w := by
  rw [dot_comm, dot_smul, dot_comm]

@[simp] theorem dot_neg : v.dot (-w) = -v.dot w := by
  rw [← neg_one_smul ℝ w, dot_smul, neg_one_mul]

@[simp] theorem neg_dot : (-v).dot w = -v.dot w := by
  rw [dot_comm, dot_neg, dot_comm]

/-- A multiple of the scalar product with a vector, as an additive map. -/
noncomputable def dotHom : Vector3 ℝ →+ ℝ :=
  AddMonoidHom.mk' (fun w => s * v.dot w) fun u w => by rw [dot_add, mul_add]

theorem squaredNorm_nonneg : 0 ≤ v.squaredNorm := by
  rw [squaredNorm, dot_eq]
  exact add_nonneg (add_nonneg (mul_self_nonneg _) (mul_self_nonneg _)) (mul_self_nonneg _)

theorem norm_mul_self : v.norm * v.norm = v.squaredNorm :=
  Real.mul_self_sqrt v.squaredNorm_nonneg

/-! No component is longer than the vector. -/

theorem abs_x_le_norm : |v.x| ≤ v.norm := by
  refine Real.abs_le_sqrt ?_
  rw [squaredNorm, dot_eq, pow_two]
  linarith [mul_self_nonneg v.y, mul_self_nonneg v.z]

theorem abs_y_le_norm : |v.y| ≤ v.norm := by
  refine Real.abs_le_sqrt ?_
  rw [squaredNorm, dot_eq, pow_two]
  linarith [mul_self_nonneg v.x, mul_self_nonneg v.z]

theorem abs_z_le_norm : |v.z| ≤ v.norm := by
  refine Real.abs_le_sqrt ?_
  rw [squaredNorm, dot_eq, pow_two]
  linarith [mul_self_nonneg v.x, mul_self_nonneg v.y]

theorem squaredNorm_smul : (s • v).squaredNorm = s ^ 2 * v.squaredNorm := by
  rw [squaredNorm, dot_smul, smul_dot, ← mul_assoc, ← pow_two]
  rfl

@[simp] theorem squaredNorm_neg : (-v).squaredNorm = v.squaredNorm := by
  rw [squaredNorm, neg_dot, dot_neg, neg_neg]
  rfl

@[simp] theorem norm_neg : (-v).norm = v.norm := by
  rw [norm, squaredNorm_neg]
  rfl

theorem norm_smul (nonneg : 0 ≤ s) : (s • v).norm = s * v.norm := by
  rw [norm, sqrt_real, squaredNorm_smul, Real.sqrt_mul (sq_nonneg s), Real.sqrt_sq nonneg]
  rfl

end ParticleMomentum.Vector3
