import ParticleMomentum.Evaluation.Fused
import ParticleMomentum.Evaluation.Stepwise

/-!
# Evaluators

An evaluator holds settings and, after a setup, the plan that it read from them. `Evaluator.evaluate`
adds the contributions of all pairs to an ensemble by that plan. For the Monaghan formulation the
diffusion coefficients of all pairs are checked before anything is added.
-/

namespace ParticleMomentum

/-- An evaluator of the momentum equation. `fusedRule` is the division rule of the divisions that the
fused loop itself writes out. -/
structure Evaluator (α : Type) where
  config : Setting α
  plan : Option (Plan α)
  fusedRule : DivisionRule

namespace Evaluator

variable {α : Type} [Arithmetic α] {n : Nat}

def make (config : Setting α) (fusedRule : DivisionRule) : Evaluator α := ⟨config, none, fusedRule⟩

/-- The evaluator with another background pressure. Before the first setup there is no plan that it could
go into, and nobody looks for it. -/
def withBackground (e : Evaluator α) (background : Background) : Evaluator α :=
  { e with plan := e.plan.map fun plan => { plan with background } }

/-- Reads the plan from the settings. A setup that does not pass the checks leaves the plan as it was. The
background pressure is taken over first, so that it stays where the flag for the transport correction is
refused. -/
def setup (e : Evaluator α) (formulation : Formulation α) (kernel : Kernel α)
    (read : Setting α → Except (Fault α) Bool := Setting.toFlag) :
    Evaluator α × Except (Fault α) Unit :=
  match Plan.choices e.config formulation kernel with
  | .error f => (e, .error f)
  | .ok (background, backend) =>
    let begun := e.withBackground background
    match Plan.corrects begun.config read with
    | .error f => (begun, .error f)
    | .ok transport =>
      let plan := { background, transport, backend, convectionFactor := kernel.convectionFactor }
      ({ begun with plan := some plan }, .ok ())

/-- The diffusion coefficient of a pair, if it is negative. -/
def negativeDiffusion? (convectionFactor : α) (p : Sides (Particle α)) :
    Except (Fault α) (Option (NegativeDiffusion α)) := do
  let viscosity := p.map (·.viscosity)
  let bulkViscosity := p.map (·.bulkViscosity)
  let shear ← Monaghan.shearCoefficients convectionFactor viscosity bulkViscosity
  return if shear.diffusion < 0.0 then some ⟨shear.diffusion, viscosity, bulkViscosity⟩ else none

/-- The first pair with a negative diffusion coefficient. -/
def firstNegativeDiffusion? (convectionFactor : α) (e : Ensemble n α) :
    List (PairRow n α) → Except (Fault α) (Option (PairRow n α × NegativeDiffusion α))
  | [] => .ok none
  | row :: rest => do
    match ← negativeDiffusion? convectionFactor (e.sides row) with
    | some report => return some (row, report)
    | none => firstNegativeDiffusion? convectionFactor e rest

/-- Refuses pairs with a negative diffusion coefficient, where the formulation cannot take them. -/
def checkDiffusion (kind : FormulationClass) (convectionFactor : α) (e : Ensemble n α)
    (rows : List (PairRow n α)) : Trail (Notice α) (Fault α) Unit := do
  if kind.checksDiffusion then
    match ← firstNegativeDiffusion? convectionFactor e rows with
    | some (row, report) =>
      Trail.emit (.negativeDiffusionAt (row.labels.map (·.value)))
      Trail.fail (.negativeDiffusion report)
    | none => pure ()

/-- The pairs of an evaluation. Modified slopes that are not given are the slopes themselves; those that
are given must be as many as the pairs. -/
def inputs (rows : List (PairRow n α)) (modified : Sides (Option (List α))) :
    Except (Fault α) (List (PairInput n α)) :=
  let slopesI := modified.i.getD (rows.map (·.slope.i))
  let slopesJ := modified.j.getD (rows.map (·.slope.j))
  if slopesI.length ≠ rows.length ∨ slopesJ.length ≠ rows.length then
    .error (.derivativesShape rows.length)
  else .ok <| (rows.zip (slopesI.zip slopesJ)).map fun (row, i, j) => ⟨row, ⟨i, j⟩⟩

/-- The contributions of a pair by a plan; the state of the particles is that before the evaluation. -/
def contributions (kind : FormulationClass) (plan : Plan α) (fusedRule : DivisionRule)
    (e : Ensemble n α) (input : PairInput n α) : Contributions α Unit :=
  match plan.backend with
  | .fused => Fused.pair kind.number fusedRule plan (e.sides input.row) input
  | .stepwise => Stepwise.pair kind.scheme plan (e.sides input.row) input

def evaluate (ev : Evaluator α) (kind : FormulationClass) (rows : List (PairRow n α))
    (modified : Sides (Option (List α))) : Procedure (Ensemble n α) (Notice α) (Fault α) Unit := do
  match ev.plan with
  | none => Procedure.fail .evaluatorNotSetUp
  | some plan =>
    let inputs ← inputs rows modified
    let before ← Procedure.state
    checkDiffusion kind plan.convectionFactor before rows
    Procedure.ofChange fun e => e.sweep (contributions kind plan ev.fusedRule before) inputs
    Procedure.emit .evaluated

end Evaluator

end ParticleMomentum
