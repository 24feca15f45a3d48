import ParticleMomentum.Evaluation.Evaluator
import ParticleMomentum.Neighbours.Table

/-!
# Evaluation benches

A bench brings together what an evaluation needs: a formulation, a kernel, an evaluator, an ensemble and
its pairs. Each of them can be worked on between evaluations.
-/

namespace ParticleMomentum

/-- Everything that takes part in an evaluation. -/
structure Bench (n : Nat) (α : Type) where
  formulation : Formulation α
  kernel : Kernel α
  evaluator : Evaluator α
  ensemble : Ensemble n α
  pairs : Option (PairTable n α)

namespace Bench

variable {n : Nat} {α : Type} [Arithmetic α]

abbrev Work (n : Nat) (α β : Type) : Type := Procedure (Bench n α) (Notice α) (Fault α) β

/-- Finds the pairs at the current positions, and says how many there are. -/
def rebuild : Work n α Nat := do
  let b ← Procedure.state
  let rows ← Neighbours.find b.kernel b.ensemble.positions
  Procedure.update fun b => { b with pairs := some (.ofRows rows) }
  return rows.length

/-- Evaluates the rows of a table that can be read, and ends with a fault at the first that cannot. A
check of diffusion coefficients that runs step by step meets that row before anything is added. -/
def evaluatePartly (ev : Evaluator α) (kind : FormulationClass) (plan : Plan α)
    (table : PairTable n α) (modified : Sides (List α)) :
    Procedure (Ensemble n α) (Notice α) (Fault α) Unit := do
  if modified.i.length ≠ table.count ∨ modified.j.length ≠ table.count then
    Procedure.fail (.derivativesShape table.count)
  else
    let before ← Procedure.state
    Evaluator.checkDiffusion kind plan.convectionFactor before table.rows
    if kind.checksDiffusion && ev.fusedRule == .extended then Procedure.fail .indexOutOfRange
    else
      let inputs ← Evaluator.inputs table.rows
        (modified.map fun slopes => some (slopes.take table.rows.length))
      Procedure.ofChange fun e => e.sweep (Evaluator.contributions kind plan ev.fusedRule before) inputs
      Procedure.fail .indexOutOfRange

/-- Evaluates the momentum equation for a table. The slopes themselves stand in for modified slopes. -/
def evaluateTable (ev : Evaluator α) (kind : FormulationClass) (plan : Plan α)
    (table : PairTable n α) (modified : Sides (Option (List α))) :
    Procedure (Ensemble n α) (Notice α) (Fault α) Unit :=
  let slopes : Sides (List α) :=
    ⟨modified.i.getD table.slopes.i, modified.j.getD table.slopes.j⟩
  if table.left = 0 then ev.evaluate kind table.rows (slopes.map some)
  else evaluatePartly ev kind plan table slopes

/-- Evaluates the momentum equation on the ensemble. Without pairs there are no slopes that could stand
in for modified ones, and no number of pairs to compare theirs with. -/
def evaluate (modified : Sides (Option (List α))) : Work n α Unit := fun b =>
  match b.evaluator.plan, b.pairs with
  | none, _ => (Trail.fail .evaluatorNotSetUp, b)
  | some _, none =>
    (Trail.fail (if modified.i.isSome && modified.j.isSome then .noCount else .noPairs), b)
  | some plan, some table =>
    let (trail, ensemble) :=
      evaluateTable b.evaluator b.formulation.kind plan table modified b.ensemble
    (trail, { b with ensemble })

inductive Step (α : Type) where
  | setup
  | evaluate (modified : Sides (Option (List α)))
  | beginFormulation
  | setupKernel
  | configure (settings : Setting α)
  | rebuild
  | change (edit : Ensemble.Edit α)

/-- Carries out a step. Finding pairs answers with their number. A setup reads flags by `read`. -/
def step (read : Setting α → Except (Fault α) Bool) : Step α → Work n α (Option Nat)
  | .setup => do
    Procedure.ofChange fun b =>
      let (evaluator, result) := b.evaluator.setup b.formulation b.kernel read
      ({ b with evaluator }, result)
    return none
  | .evaluate modified => do
    evaluate modified
    return none
  | .beginFormulation => do
    Procedure.update fun b => { b with formulation := b.formulation.begin.setup }
    return none
  | .setupKernel => do
    Procedure.ofChange fun b =>
      let (kernel, result) := b.kernel.setup
      ({ b with kernel }, result)
    return none
  | .configure settings => do
    Procedure.ofChange fun b =>
      let (config, result) := b.evaluator.config.update settings
      ({ b with evaluator := { b.evaluator with config } }, result)
    return none
  | .rebuild => some <$> rebuild
  | .change edit => do
    Procedure.ofChange fun b =>
      let (ensemble, result) := b.ensemble.edit edit
      ({ b with ensemble }, result)
    return none

end Bench

end ParticleMomentum
