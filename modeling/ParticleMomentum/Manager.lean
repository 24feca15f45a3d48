import ParticleMomentum.Bounds
import ParticleMomentum.Catalogue
import ParticleMomentum.Evaluation.Evaluator

/-!
# Managers

A manager keeps settings and, made from them, a formulation, a kernel and an evaluator. They are made
when they are first asked for, and again when a selection or new settings call for it. Everything that a
manager issues bears a number of its own, so that a new issue can be told from the old one; the
evaluator remembers the numbers of the formulation and the kernel that it works with.
-/

namespace ParticleMomentum

/-- Something made by a manager, under the number of its issue. -/
structure Issued (β : Type) where
  number : Nat
  value : β

/-- An evaluator that works with an issued formulation and an issued kernel. -/
structure BoundEvaluator (α : Type) where
  evaluator : Evaluator α
  formulation : Nat
  kernel : Nat

structure Manager (α : Type) where
  config : Settings α
  formulation : Option (Issued (Formulation α))
  formulationId : Option (Setting α)
  kernel : Option (Issued (Kernel α))
  kernelId : Option (Setting α)
  evaluator : Option (Issued (BoundEvaluator α))
  /-- The number of the next issue. -/
  nextIssue : Nat

namespace Manager

variable {α : Type} [Arithmetic α]

abbrev Call (α β : Type) : Type := Procedure (Manager α) (Notice α) (Fault α) β

def make (config : Settings α) : Except (Fault α) (Manager α) := do
  config.validate
  return { config
           formulation := none
           formulationId := none
           kernel := none
           kernelId := none
           evaluator := none
           nextIssue := 0 }

/-- Puts something under the number of a new issue. -/
def issue {β : Type} (value : β) : Call α (Issued β) := fun m =>
  (pure ⟨m.nextIssue, value⟩, { m with nextIssue := m.nextIssue + 1 })

/-- Passes settings on to the formulation in use. -/
def passToFormulation (config : Settings α) : Call α Unit :=
  Procedure.ofChange fun m =>
    match m.formulation with
    | none => (m, .ok ())
    | some issued =>
      let (formulation, result) := issued.value.updateConfig (.record config)
      ({ m with formulation := some { issued with value := formulation } }, result)

/-- Selects a formulation. The one in use already only receives the current settings. -/
def selectFormulation (id : Setting α) : Call α Unit := do
  let m ← Procedure.state
  if m.formulation.isSome && (m.formulationId.getD .null).same id then
    passToFormulation m.config
  else
    Procedure.emit (.selectingFormulation id)
    let formulation ← issue (← Catalogue.createFormulation id (.record m.config))
    Procedure.update fun m =>
      { m with formulation := some formulation, formulationId := some id, evaluator := none }

/-- Selects a kernel, which is made anew in any case. -/
def selectKernel (id : Setting α) : Call α Unit := do
  Procedure.emit (.selectingKernel id)
  let m ← Procedure.state
  let kernel ← issue (← Catalogue.createKernel id (.record m.config))
  Procedure.update fun m =>
    { m with kernel := some kernel, kernelId := some id, evaluator := none }

/-- Merges new settings that keep the whole valid. The formulation receives them, and the kernel is made
anew if there was one. -/
def updateConfig (config : Setting α) : Call α Unit := do
  let m ← Procedure.state
  let (merged, result) := m.config.mergeSetting config
  result
  merged.validate
  Procedure.update fun m => { m with config := merged }
  passToFormulation merged
  match m.kernelId with
  | some id => selectKernel id
  | none => pure ()
  Procedure.update fun m => { m with evaluator := none }

/-- The formulation in use; the settings name the one to begin with. -/
def getFormulation : Call α (Issued (Formulation α)) := do
  let m ← Procedure.state
  match m.formulation with
  | some issued => return issued
  | none =>
    selectFormulation (m.config.findD "default_formulation" (.text "adami"))
    current
where
  /-- The formulation that was just selected. -/
  current : Call α (Issued (Formulation α)) := do
    match (← Procedure.state).formulation with
    | some issued => return issued
    | none => Procedure.fail .nothingSelected

/-- The kernel in use; the settings name the one to begin with. -/
def getKernel : Call α (Issued (Kernel α)) := do
  let m ← Procedure.state
  match m.kernel with
  | some issued => return issued
  | none =>
    selectKernel (m.config.findD "default_kernel" (.text "cubic_spline"))
    current
where
  /-- The kernel that was just selected. -/
  current : Call α (Issued (Kernel α)) := do
    match (← Procedure.state).kernel with
    | some issued => return issued
    | none => Procedure.fail .nothingSelected

/-- The evaluator in use, or a new one for the formulation and the kernel in use. -/
def getEvaluator : Call α (Issued (BoundEvaluator α)) := do
  match (← Procedure.state).evaluator with
  | some issued => return issued
  | none =>
    let formulation ← getFormulation
    let kernel ← getKernel
    let m ← Procedure.state
    let (evaluator, result) :=
      (Evaluator.make (.record m.config) .strict).setup formulation.value kernel.value
    result
    let issued ← issue ⟨evaluator, formulation.number, kernel.number⟩
    Procedure.update fun m => { m with evaluator := some issued }
    return issued

inductive Request (α : Type) where
  | selectFormulation (id : Setting α)
  | selectKernel (id : Setting α)
  | updateConfig (config : Setting α)
  | getFormulation
  | getKernel
  | getEvaluator

/-- Carries out a request; what it hands out can be seen in the state. -/
def serve : Request α → Call α Unit
  | .selectFormulation id => selectFormulation id
  | .selectKernel id => selectKernel id
  | .updateConfig config => updateConfig config
  | .getFormulation => do
    let _ ← getFormulation
  | .getKernel => do
    let _ ← getKernel
  | .getEvaluator => do
    let _ ← getEvaluator

end Manager

end ParticleMomentum
