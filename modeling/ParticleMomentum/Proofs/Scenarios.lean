import ParticleMomentum.Proofs.Managers.Failures
import ParticleMomentum.Scenario

/-!
# The result of a scenario

A scenario has a manager of its own, which is new. So what it evaluates with is what its settings make:
the formulation and the kernel that they name, and the plan that they ask for. Its result is that of these
parts, made one after the other, and of the evaluation on the lattice.
-/

namespace ParticleMomentum

variable {α : Type} [Arithmetic α]

open Procedure (Reaches)

namespace Manager

variable {m : Manager α} {fault : Fault α}

theorem getFormulation_of_error (unset : m.formulation = none)
    (h : Catalogue.createFormulation (m.config.findD "default_formulation" (.text "adami"))
      (.record m.config) = .error fault) :
    (getFormulation m).1.result = .error fault := by
  rw [getFormulation, Procedure.state_bind, unset, Procedure.bind_result,
    selectFormulation_of_error (not_uses_of_unset unset) h]
  rfl

theorem getKernel_of_error (unset : m.kernel = none)
    (h : Catalogue.createKernel (m.config.findD "default_kernel" (.text "cubic_spline"))
      (.record m.config) = .error fault) :
    (getKernel m).1.result = .error fault := by
  rw [getKernel, Procedure.state_bind, unset, Procedure.bind_result, selectKernel_of_error h]
  rfl

/-- The manager of some settings before it is first used. -/
def unused (config : Settings α) : Manager α := ⟨config, none, none, none, none, none, 0⟩

end Manager

def Settings.formulationId (settings : Settings α) : Setting α :=
  settings.findD "default_formulation" (.text "adami")

def Settings.kernelId (settings : Settings α) : Setting α :=
  settings.findD "default_kernel" (.text "cubic_spline")

structure Equipment (α : Type) where
  formulation : Formulation α
  kernel : Kernel α
  plan : Plan α

/-- The formulation and the kernel that settings name, and the plan that they ask for. -/
def Settings.equipment (settings : Settings α) : Except (Fault α) (Equipment α) := do
  let formulation ← Catalogue.createFormulation settings.formulationId (.record settings)
  let kernel ← Catalogue.createKernel settings.kernelId (.record settings)
  let plan ← Plan.ofSettings (.record settings) formulation kernel
  return ⟨formulation, kernel, plan⟩

namespace Manager

variable {config : Settings α}

/-- A new manager fails to hand out an evaluator as its settings fail to make one. -/
theorem getEvaluator_of_error (h : config.equipment = .error fault) :
    (getEvaluator (unused config)).1.result = .error fault := by
  rw [getEvaluator_of_none rfl]
  rcases formulation : Catalogue.createFormulation config.formulationId (.record config) with e | f
  · simp only [Settings.equipment, formulation, bind, Except.bind] at h
    cases h
    rw [Procedure.bind_result, getFormulation_of_error (m := unused config) rfl formulation]
    rfl
  let formulated := (unused config).withFormulation config.formulationId f
  have first : getFormulation.Reaches (unused config) _ formulated :=
    getFormulation_reaches rfl formulation
  rw [first.bind_result]
  rcases kernel : Catalogue.createKernel config.kernelId (.record config) with e | k
  · simp only [Settings.equipment, formulation, kernel, bind, Except.bind] at h
    cases h
    rw [Procedure.bind_result, getKernel_of_error (m := formulated) rfl kernel]
    rfl
  have second : getKernel.Reaches formulated _ (formulated.withKernel config.kernelId k) :=
    getKernel_reaches rfl kernel
  rcases planned : Plan.ofSettings (.record config) f k with e | plan
  · simp only [Settings.equipment, formulation, kernel, planned, bind, Except.bind] at h
    cases h
    have stops (i j : Nat) : bindEvaluator ⟨i, f⟩ ⟨j, k⟩ (formulated.withKernel config.kernelId k) =
      (⟨[], .error fault⟩, _) := bindEvaluator_of_error planned
    rw [second.bind_result, stops]
  · simp only [Settings.equipment, formulation, kernel, planned, bind, Except.bind] at h
    cases h

/-- What a new manager holds when it has handed out an evaluator: all that its settings make. -/
theorem getEvaluator_of_ok {made : Equipment α} (h : config.equipment = .ok made) :
    ∃ bound m', getEvaluator.Reaches (unused config) bound m' ∧
      bound.value.evaluator = ⟨.record config, some made.plan, .strict⟩ ∧
      (∃ number, m'.formulation = some ⟨number, made.formulation⟩) ∧
      (∃ number, m'.kernel = some ⟨number, made.kernel⟩) ∧
      m'.formulationId = some config.formulationId := by
  simp only [Settings.equipment, bind_eq_ok_iff, pure_eq_ok_iff] at h
  obtain ⟨f, formulation, k, kernel, plan, planned, rfl⟩ := h
  have evaluator := getEvaluator_reaches (m := unused config) rfl rfl rfl formulation kernel planned
  exact ⟨_, _, evaluator, rfl, ⟨_, rfl⟩, ⟨_, rfl⟩, rfl⟩

end Manager

namespace Scenario

open Manager (unused)

/-- The result of a scenario is that of its parts, made one after the other. -/
theorem result_run (settings : Settings α) (draw : Draws α) :
    (run settings draw).result = (do
      settings.validate
      let made ← settings.equipment
      let lattice ← CubicLattice.ofSettings settings
      (evaluate ⟨.record settings, some made.plan, .strict⟩ made.formulation.kind made.kernel
        (some settings.formulationId) lattice draw).result) := by
  have prepared : Manager.make settings = settings.validate >>= fun _ => .ok (unused settings) := rfl
  rw [run, Trail.bind_result, Trail.liftM_eq, prepared]
  rcases settings.validate with fault | ⟨⟩
  · rfl
  change (run.underManager settings draw (unused settings)).1.result = _
  rw [run.underManager]
  rcases equipment : settings.equipment with fault | made
  · rw [Procedure.bind_result, Manager.getEvaluator_of_error equipment]
    rfl
  obtain ⟨bound, m', handed, evaluator, ⟨_, formulation⟩, ⟨_, kernel⟩, id⟩ :=
    Manager.getEvaluator_of_ok equipment
  rw [handed.bind_result]
  rcases CubicLattice.ofSettings settings with fault | l
  · rfl
  refine (Reaches.bind_result (p := liftM (Except.ok l)) ⟨rfl, rfl⟩).trans ?_
  refine (Manager.getKernel_of_some kernel).bind_result.trans ?_
  refine (Manager.getFormulation_of_some formulation).bind_result.trans ?_
  rw [Procedure.state_bind, evaluator, id]
  rfl

end Scenario

end ParticleMomentum
