import ParticleMomentum.Proofs.Arithmetic.Signs
import ParticleMomentum.Proofs.Kernels

/-!
# Kernels that are ready

On doubles a kernel may be ready and yet not fit together. The check of the radius lets pass what is no
number; and a setup that stops at the normalization leaves the kernel ready if it was before, with the
new radius and the old normalization. Apart from these two cases a kernel that is ready is consistent.
-/

namespace ParticleMomentum

open Arithmetic

namespace Setting

variable {α : Type} [Arithmetic α] {n : Int}

theorem eq_ofInt_of_numberOfInt {x : α} (h : numberOfInt n = .ok x) : x = ofInt n := by
  rw [numberOfInt] at h
  split at h
  · exact (Except.ok.inj h).symm
  · cases h

theorem Number.pos_of_not_atMost (h : (whole n : Number α).atMost (.whole 0) = false) : 0 < n := by
  rcases atMost_eq_false_iff.mp h with above | incomparable
  · exact Int.compare_eq_gt.mp (Option.some.inj above)
  · cases incomparable

end Setting

namespace Kernel

variable {k : Kernel Float}

/-- The check lets pass positive radii and what is no number. -/
theorem Derived.radius_pos_or_isUndefined (h : k.Derived) :
    0.0 < k.supportRadius ∨ isUndefined k.supportRadius = true := by
  obtain ⟨number, passed, read⟩ := h.radius
  cases number with
  | whole n =>
      rw [Setting.eq_ofInt_of_numberOfInt read]
      exact .inl (Double.ofInt_pos (Setting.Number.pos_of_not_atMost passed))
  | real x =>
      cases read
      exact Double.zero_lt_or_isUndefined passed

/-- A kernel that is ready has an allowed dimension, a smoothing length that belongs to its radius, and a
normalization that belongs to both if they have one. It is consistent just if its radius is a number and
there is such a normalization. -/
theorem ready_kernel (reachable : k.Reachable) (ready : k.ready = true) :
    (0.0 < k.supportRadius ∨ isUndefined k.supportRadius = true) ∧
    k.dimension ∈ [1, 2, 3] ∧
    k.smoothingLength = k.supportRadius / k.spline.supportRatio ∧
    (∀ c, k.spline.normalization k.dimension k.smoothingLength = .ok c → k.normalization = c) ∧
    (k.SelfConsistent ↔ isUndefined k.supportRadius = false ∧
      ∃ c, k.spline.normalization k.dimension k.smoothingLength = .ok c) := by
  have derived := reachable.derived ready
  refine ⟨derived.radius_pos_or_isUndefined, derived.dimension, derived.length,
    derived.normalization, ?_⟩
  constructor
  · intro consistent
    exact ⟨Double.isUndefined_of_pos consistent.radius_pos, _, consistent.normalization⟩
  · rintro ⟨defined, normalizes⟩
    rcases derived.radius_pos_or_isUndefined with pos | undefined
    · exact derived.selfConsistent pos normalizes
    · rw [defined] at undefined
      cases undefined

def onLine (radius : Setting Float) : Kernel Float :=
  (edit (make .cubic (.record [("support_radius", radius), ("kernel_space_dim", .whole 1)])) .setup).1

theorem onLine_reachable (radius : Setting Float) : (onLine radius).Reachable :=
  (Reachable.made _ _).edited .setup

theorem ready_kernel_onLine :
    (onLine (.whole 2)).Reachable ∧ (onLine (.whole 2)).ready = true ∧
      (onLine (.whole 2)).smoothingLength =
        (onLine (.whole 2)).supportRadius / (onLine (.whole 2)).spline.supportRatio := by
  have ready : (onLine (.whole 2)).ready = true := by decide +kernel
  obtain ⟨-, -, length, -⟩ := ready_kernel (onLine_reachable (.whole 2)) ready
  exact ⟨onLine_reachable _, ready, length⟩

/-- A kernel may be ready although its radius is no number. -/
theorem ready_not_selfConsistent :
    ¬ ∀ k : Kernel Float, k.Reachable → k.ready = true → k.SelfConsistent := by
  intro consistent
  have ready : (onLine (.real (0.0 / 0.0))).ready = true := by decide +kernel
  have pos := (consistent _ (onLine_reachable _) ready).radius_pos
  have notPos : ¬ 0.0 < (onLine (.real (0.0 / 0.0))).supportRadius := by decide +kernel
  exact notPos pos

/-- A kernel that was ready before it met the least positive double as its radius: half of that is
zero. -/
def outgrownKernel : Kernel Float :=
  (edit (edit (onLine (.whole 2)) (.put "support_radius" (.real 5e-324))).1 .setup).1

theorem outgrownKernel_reachable : outgrownKernel.Reachable :=
  ((onLine_reachable _).edited (.put "support_radius" (.real 5e-324))).edited .setup

/-- A kernel may be ready with a normalization from an earlier setup. -/
theorem outgrownKernel_not_selfConsistent :
    outgrownKernel.ready = true ∧ 0.0 < outgrownKernel.supportRadius ∧
      ¬ outgrownKernel.SelfConsistent := by
  refine ⟨by decide +kernel, by decide +kernel, fun consistent => ?_⟩
  have fails : (outgrownKernel.spline.normalization outgrownKernel.dimension
      outgrownKernel.smoothingLength).toBool = false := by decide +kernel
  rw [consistent.normalization] at fails
  cases fails

end Kernel

end ParticleMomentum
