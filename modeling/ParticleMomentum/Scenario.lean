import ParticleMomentum.CubicLattice
import ParticleMomentum.Manager

/-!
# Scenarios

A scenario evaluates the momentum equation once on a lattice and sums up the outcome: the greatest
acceleration, and the rate at which the total momentum changes.
-/

namespace ParticleMomentum

structure Summary (α : Type) where
  particles : Nat
  pairs : Nat
  greatestAcceleration : α
  momentumRate : Vector3 α

namespace Ensemble

variable {n : Nat} {α : Type} [Arithmetic α]

/-- The rate at which the total momentum changes. -/
def momentumRate (e : Ensemble n α) : Vector3 α :=
  e.particles.foldl (fun sum p => sum + p.acceleration.scale p.mass) Vector3.zero

/-- The length of the greatest acceleration, and zero where there are no particles. -/
def greatestAcceleration (e : Ensemble n α) : α :=
  match e.particles.toList.map (·.acceleration.norm) with
  | [] => 0.0
  | x :: xs => xs.foldl Arithmetic.larger x

end Ensemble

namespace Scenario

variable {α : Type} [Arithmetic α]

/-- The evaluation on a lattice. -/
def evaluate (evaluator : Evaluator α) (kind : FormulationClass) (kernel : Kernel α)
    (id : Option (Setting α)) (l : CubicLattice α) (draw : Draws α) :
    Trail (Notice α) (Fault α) (Summary α) := do
  let e := l.ensemble draw
  let rows ← Neighbours.find kernel e.positions
  Trail.emit (.scenario l.size rows.length id)
  let e := (e.clear (.vector .accelerations)).clear (.vector .modifiedAccelerations)
  let (trail, e) := evaluator.evaluate kind rows (Sides.both none) e
  trail
  return ⟨l.size, rows.length, e.greatestAcceleration, e.momentumRate⟩

/-- Runs a scenario: settings say which formulation, which kernel and which lattice. -/
def run (settings : Settings α) (draw : Draws α) : Trail (Notice α) (Fault α) (Summary α) := do
  let m ← Manager.make settings
  Procedure.run underManager m
where
  /-- The run under a manager of the settings. -/
  underManager : Manager.Call α (Summary α) := do
    let bound ← Manager.getEvaluator
    let lattice ← CubicLattice.ofSettings settings
    let kernel ← Manager.getKernel
    let formulation ← Manager.getFormulation
    let id := (← Procedure.state).formulationId
    evaluate bound.value.evaluator formulation.value.kind kernel.value id lattice draw

end Scenario

end ParticleMomentum
