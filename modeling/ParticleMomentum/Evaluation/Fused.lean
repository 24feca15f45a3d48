import ParticleMomentum.Evaluation.Contribution
import ParticleMomentum.Evaluation.Plan

/-!
# The fused pair loop

One loop with the terms of both schemes written out. The number of the formulation selects the Monaghan
branch; any other number takes the Adami branch. Factors that both sides need are computed once, and
also where only one side wants them.
-/

namespace ParticleMomentum.Fused

variable {α : Type} [Arithmetic α] {n : Nat}

/-- The branch that a formulation number selects. -/
def isMonaghan (number : Int) : Bool := number == FormulationClass.monaghan.number

/-- Adds `onI` on side `i` and `onJ` on side `j` of the same accumulator, where owned. -/
def addBoth (target : Target) (owned : Sides Bool) (onI onJ : Vector3 α) : Contributions α Unit := do
  Trail.guarded owned.i (Trail.emit ⟨target, .i, onI⟩)
  Trail.guarded owned.j (Trail.emit ⟨target, .j, onJ⟩)

def coefficients (monaghan : Bool) (density mass slope : Sides α) : Except (Fault α) (Sides α) :=
  if monaghan then .ok (Monaghan.coefficients mass slope)
  else Adami.coefficients density mass slope

def pressureFactor (monaghan : Bool) (density pressure : Sides α) : Except (Fault α) α :=
  if monaghan then Monaghan.pressureFactor density pressure
  else Adami.pressureFactor density pressure

def pressureGradient (monaghan : Bool) (p : Sides (Particle α)) (coefficient : Sides α)
    (direction : Vector3 α) : Contributions α Unit := do
  let factor ← pressureFactor monaghan (p.map (·.density)) (p.map (·.pressure))
  addBoth .acceleration (p.map (·.owned))
    (direction.scale (-coefficient.i * factor)) (direction.scale (coefficient.j * factor))

/-- The shear forces. The Monaghan branch relies on the check of diffusion coefficients. -/
def shear (monaghan : Bool) (rule : DivisionRule) (convectionFactor : α) (p : Sides (Particle α))
    (distance : α) (coefficient : Sides α) (direction : Vector3 α) : Contributions α Unit := do
  let density := p.map (·.density)
  let viscosity := p.map (·.viscosity)
  let relativeVelocity := p.i.velocity - p.j.velocity
  if monaghan then
    let shear ← Monaghan.shearCoefficients convectionFactor viscosity (p.map (·.bulkViscosity))
    Trail.guarded p.i.owned <| Deposits.into .acceleration <|
      Monaghan.shearOn .i coefficient.i shear density distance relativeVelocity direction
    Trail.guarded p.j.owned <| Deposits.into .acceleration <|
      Monaghan.shearOn .j (-coefficient.j) shear density distance relativeVelocity direction
  else if Adami.isViscous viscosity then
    let factor ← rule.quotient (← Adami.meanViscosity viscosity) distance
    addBoth .acceleration (p.map (·.owned)) (relativeVelocity.scale (coefficient.i * factor))
      (relativeVelocity.scale (-coefficient.j * factor))

def background (monaghan : Bool) (kind : Background) (p : Sides (Particle α))
    (coefficient modifiedSlope : Sides α) (direction : Vector3 α) : Contributions α Unit := do
  let owned := p.map (·.owned)
  match kind with
  | .off => pure ()
  | .standard =>
    let factor ← standardFactor
    addBoth .modifiedAcceleration owned
      (direction.scale (-coefficient.i * p.i.backgroundPressure * factor))
      (direction.scale (coefficient.j * p.j.backgroundPressure * factor))
  | .generalized =>
    let (factorI, factorJ) ← generalizedFactors
    addBoth .modifiedAcceleration owned (direction.scale (-factorI)) (direction.scale factorJ)
where
  /-- The factor of the standard background pressure. -/
  standardFactor : Except (Fault α) α :=
    if monaghan then Monaghan.backgroundFactor (p.map (·.density)) else .ok 1.0
  /-- The factors of the generalized background pressure, on both sides. -/
  generalizedFactors : Except (Fault α) (α × α) := do
    if monaghan then
      let factorI ← Monaghan.generalizedBackground p.i.backgroundPressure p.j.mass p.i.density
        modifiedSlope.i
      let factorJ ← Monaghan.generalizedBackground p.j.backgroundPressure p.i.mass p.j.density
        modifiedSlope.j
      return (factorI, factorJ)
    else
      let factorI ← Adami.generalizedBackground p.i.backgroundPressure p.i.mass p.i.density
        modifiedSlope.i
      let factorJ ← Adami.generalizedBackground p.j.backgroundPressure p.j.mass p.j.density
        modifiedSlope.j
      return (factorI, factorJ)

def transport (monaghan : Bool) (rule : DivisionRule) (p : Sides (Particle α))
    (coefficient : Sides α) (direction : Vector3 α) : Contributions α Unit := do
  let (weightI, weightJ) ← weights
  let sum := Vector3.zero
    + transportTerm weightI p.i.velocity p.i.modifiedVelocity direction
    + transportTerm weightJ p.j.velocity p.j.modifiedVelocity direction
  addBoth .acceleration (p.map (·.owned)) (sum.scale coefficient.i) (sum.scale (-coefficient.j))
where
  /-- The weights of both particles. -/
  weights : Except (Fault α) (α × α) := do
    if monaghan then
      let weightI ← rule.quotient 1.0 p.i.density
      let weightJ ← rule.quotient 1.0 p.j.density
      return (weightI, weightJ)
    else return (0.5 * p.i.density, 0.5 * p.j.density)

def ownedPair (number : Int) (rule : DivisionRule) (plan : Plan α) (p : Sides (Particle α))
    (input : PairInput n α) : Contributions α Unit := do
  let monaghan := isMonaghan number
  let direction := input.row.direction
  let coefficient ← coefficients monaghan (p.map (·.density)) (p.map (·.mass)) input.row.slope
  pressureGradient monaghan p coefficient direction
  shear monaghan rule plan.convectionFactor p input.row.distance coefficient direction
  background monaghan plan.background p coefficient input.modifiedSlope direction
  Trail.guarded plan.transport (transport monaghan rule p coefficient direction)

/-- The contributions of a pair: none unless one of its particles is owned. -/
def pair (number : Int) (rule : DivisionRule) (plan : Plan α) (p : Sides (Particle α))
    (input : PairInput n α) : Contributions α Unit :=
  Trail.guarded (p.i.owned || p.j.owned) (ownedPair number rule plan p input)

end ParticleMomentum.Fused
