import ParticleMomentum.Proofs.Kernels.Bounds
import ParticleMomentum.Proofs.Managers.Failures

/-!
# The kernels of managers

The settings of a manager are valid at all times: new ones are checked before they are stored. A kernel is
made of the settings of its time, so it is scaled well; and it stays in use as it is when an update fails
that has stored new settings already. A selection reads valid settings as well, and is refused for
nothing but the radius or the dimension.
-/

namespace ParticleMomentum.Manager

section

variable {α : Type} [Arithmetic α]

/-- The settings are valid, and the kernel in use is scaled well, whatever settings it was made of. -/
structure Scaled (m : Manager α) : Prop where
  valid : m.config.validate = .ok ()
  kernel : ∀ issued, m.kernel = some issued → issued.value.WellScaled

/-- Passing settings on concerns the formulation alone. -/
theorem passToFormulation_else (config : Settings α) (m : Manager α) :
    (passToFormulation config m).2.config = m.config ∧
      (passToFormulation config m).2.kernel = m.kernel := by
  obtain ⟨settings, formulation, formulationId, kernel, kernelId, evaluator, nextIssue⟩ := m
  cases formulation with
  | none => exact ⟨rfl, rfl⟩
  | some issued => exact ⟨rfl, rfl⟩

theorem scaled_of_make {config : Settings α} {m : Manager α} (h : make config = .ok m) : m.Scaled := by
  obtain ⟨valid, rfl⟩ := make_eq_ok_iff.mp h
  exact ⟨valid, nofun⟩

/-- New settings are valid when they are stored, and a new kernel is made of valid settings. -/
theorem scaled_kept (bounds : NormalizesBounds α) : KeptByChanges (Scaled : Manager α → Prop) where
  issued _ hm := ⟨hm.valid, hm.kernel⟩
  config _ _ valid hm := ⟨valid, hm.kernel⟩
  passed config m hm := by
    obtain ⟨settings, kernel⟩ := passToFormulation_else config m
    exact ⟨settings ▸ hm.valid, fun issued inUse => hm.kernel issued (kernel ▸ inUse)⟩
  formulation _ _ _ _ _ _ _ hs := ⟨hs.valid, hs.kernel⟩
  kernel m id k hm hk s number hs := by
    refine ⟨hs.valid, ?_⟩
    rintro issued ⟨⟩
    exact Catalogue.createKernel_wellScaled bounds hm.valid hk
  evaluator _ _ hm := ⟨hm.valid, hm.kernel⟩

theorem Reachable.scaled (bounds : NormalizesBounds α) {m : Manager α} (h : m.Reachable) : m.Scaled :=
  h.of_kept (scaled_kept bounds) fun _ _ => scaled_of_make

end

/-- Kernels that managers of doubles use are scaled well, whatever requests came before and whichever of
these have failed. A kernel from the catalogue can be selected then, unless its own checks refuse the
radius or the dimension. All this only needs powers that are right up to a factor of two. -/
theorem kernels_wellScaled {power : Float → Nat → Float} (faithful : Double.FaithfulPower power)
    {m : Manager (Doubles power)} (reachable : m.Reachable) :
    (∀ issued, m.kernel = some issued → issued.value.WellScaled) ∧
    ∀ d ∈ Catalogue.kernels, ∀ id, d.require "id" = .ok id → ∀ fault,
      (selectKernel id m).1.result = .error fault →
      fault = .radiusNotPositive (Catalogue.className d) ∨
        fault = .dimensionNotAllowed (Catalogue.className d)
          (m.config.findD "kernel_space_dim" (.whole 3)) := by
  have bounds := Double.normalizesBounds faithful
  have scaled := reachable.scaled bounds
  refine ⟨scaled.kernel, fun d hd id hid fault failed => ?_⟩
  exact Catalogue.createKernel_refused bounds scaled.valid hd hid (selectKernel_fails failed).1

def spaceManager : Manager (Doubles Double.roundedPower) :=
  { config := [("support_radius", .whole 2)]
    formulation := none
    formulationId := none
    kernel := none
    kernelId := none
    evaluator := none
    nextIssue := 0 }

/-- The manager when it has made a kernel, and failed to take a dimension that the kernel refuses. -/
def refusingManager : Manager (Doubles Double.roundedPower) :=
  (serve (.updateConfig (.record [("kernel_space_dim", .real 1.5)])) (serve .getKernel spaceManager).2).2

theorem refusingManager_reachable : refusingManager.Reachable := by
  have made : make spaceManager.config = .ok spaceManager := rfl
  exact ((Reachable.made made).served .getKernel).served _

theorem kernels_wellScaled_refusingManager :
    Double.FaithfulPower Double.roundedPower ∧ refusingManager.Reachable ∧
    (∃ issued, refusingManager.kernel = some issued ∧ issued.value.WellScaled) ∧
    ∃ fault, (selectKernel (.text "cubic_spline") refusingManager).1.result = .error fault ∧
      (fault = .radiusNotPositive "CubicSplineKernel" ∨
        fault = .dimensionNotAllowed "CubicSplineKernel"
          (refusingManager.config.findD "kernel_space_dim" (.whole 3))) := by
  have inUse : refusingManager.kernel.isSome = true := by decide +kernel
  obtain ⟨issued, found⟩ := Option.isSome_iff_exists.mp inUse
  have fails : (selectKernel (.text "cubic_spline") refusingManager).1.result.toBool = false := by
    decide +kernel
  obtain ⟨scaled, refused⟩ := kernels_wellScaled Double.faithful_roundedPower refusingManager_reachable
  refine ⟨Double.faithful_roundedPower, refusingManager_reachable,
    ⟨issued, found, scaled issued found⟩, ?_⟩
  cases h : (selectKernel (.text "cubic_spline") refusingManager).1.result with
  | ok =>
      rw [h] at fails
      cases fails
  | error fault =>
      exact ⟨fault, rfl, refused _ (List.mem_cons_self ..) (.text "cubic_spline") rfl fault h⟩

end ParticleMomentum.Manager
