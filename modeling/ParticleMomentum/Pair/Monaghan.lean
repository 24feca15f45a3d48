import ParticleMomentum.Pair.Deposit

/-!
# The Monaghan scheme

Every term is normalised by the squared density of the particle on which it acts. The shear term
combines shear and bulk viscosity into a diffusion along the relative velocity and a convection along
the pair; it exists only where the diffusion coefficient is not negative.
-/

namespace ParticleMomentum.Monaghan

variable {α : Type} [Arithmetic α]

/-- The coefficient that scales all terms of a pair: the slope of the smoothing kernel, times the mass
of the neighbour. -/
def coefficients (mass slope : Sides α) : Sides α :=
  ⟨slope.i * mass.j, slope.j * mass.i⟩

/-- Each pressure over its squared density, summed. -/
def pressureFactor (density pressure : Sides α) : Except (Fault α) α := do
  let ofI ← Arithmetic.quotient pressure.i (density.i * density.i)
  let ofJ ← Arithmetic.quotient pressure.j (density.j * density.j)
  return ofI + ofJ

structure ShearCoefficients (α : Type) where
  convection : α
  diffusion : α

/-- The harmonic combination of two viscosities, where both are positive; else zero. -/
def combined (scale : α) (viscosity : Sides α) : Except (Fault α) α :=
  if 0.0 < viscosity.i ∧ 0.0 < viscosity.j then
    Arithmetic.quotient (2.0 * viscosity.i * viscosity.j) (scale * (viscosity.i + viscosity.j))
  else .ok 0.0

/-- The harmonic mean of two bulk viscosities, where both are positive; else zero. -/
def combinedBulk (viscosity : Sides α) : Except (Fault α) α :=
  if 0.0 < viscosity.i ∧ 0.0 < viscosity.j then
    Arithmetic.quotient (2.0 * viscosity.i * viscosity.j) (viscosity.i + viscosity.j)
  else .ok 0.0

/-- The coefficients of the shear term; `convectionFactor` comes from the smoothing kernel. -/
def shearCoefficients (convectionFactor : α) (viscosity bulkViscosity : Sides α) :
    Except (Fault α) (ShearCoefficients α) := do
  let scaled ← combined 3.0 viscosity
  let bulk ← combinedBulk bulkViscosity
  return ⟨convectionFactor * (bulk + scaled), 5.0 * scaled - bulk⟩

/-- The reciprocal squared densities, summed. -/
def backgroundFactor (density : Sides α) : Except (Fault α) α := do
  let ofI ← Arithmetic.quotient 1.0 (density.i * density.i)
  let ofJ ← Arithmetic.quotient 1.0 (density.j * density.j)
  return ofI + ofJ

/-- The generalized background pressure on one side: it takes the mass of the other side. -/
def generalizedBackground (pressure massOther density slope : α) : Except (Fault α) α := do
  return pressure * (← Arithmetic.quotient massOther (density * density)) * slope

/-- The diffusion and the convection that one side receives, in this order. -/
def shearParts (coefficient : α) (shear : ShearCoefficients α) (density : Sides α) (distance : α)
    (relativeVelocity direction : Vector3 α) : Except (Fault α) (Vector3 α × Vector3 α) := do
  let inverse ← Arithmetic.quotient 1.0 (density.i * density.j * distance)
  let diffusion := shear.diffusion * inverse
  let convection := shear.convection * relativeVelocity.dot direction * inverse
  return (relativeVelocity.scale (coefficient * diffusion),
    direction.scale (coefficient * convection))

/-- Deposits the shear on one side. -/
def shearOn (side : Side) (coefficient : α) (shear : ShearCoefficients α) (density : Sides α)
    (distance : α) (relativeVelocity direction : Vector3 α) : Deposits α Unit := do
  let (diffusion, convection) ← shearParts coefficient shear density distance relativeVelocity direction
  Deposits.make side diffusion
  Deposits.make side convection

def pressureGradient (density pressure coefficient : Sides α) (direction : Vector3 α)
    (wanted : Sides Bool) : Deposits α Unit := do
  let factor ← pressureFactor density pressure
  Deposits.onSides wanted
    (direction.scale (-coefficient.i * factor)) (direction.scale (coefficient.j * factor))

/-- The shear forces. A negative diffusion coefficient is a fault. -/
def shearForces (density : Sides α) (velocity : Sides (Vector3 α)) (convectionFactor : α)
    (viscosity bulkViscosity : Sides α) (distance : α) (coefficient : Sides α)
    (direction : Vector3 α) (wanted : Sides Bool) : Deposits α Unit := do
  let shear ← shearCoefficients convectionFactor viscosity bulkViscosity
  if shear.diffusion < 0.0 then
    Trail.fail (.negativeDiffusion ⟨shear.diffusion, viscosity, bulkViscosity⟩)
  else
    let relativeVelocity := velocity.i - velocity.j
    Trail.guarded wanted.i
      (shearOn .i coefficient.i shear density distance relativeVelocity direction)
    Trail.guarded wanted.j
      (shearOn .j (-coefficient.j) shear density distance relativeVelocity direction)

def standardBackground (density background coefficient : Sides α) (direction : Vector3 α)
    (wanted : Sides Bool) : Deposits α Unit := do
  let factor ← backgroundFactor density
  Deposits.onSides wanted
    (direction.scale (-coefficient.i * background.i * factor))
    (direction.scale (coefficient.j * background.j * factor))

/-- The generalized background pressure, along modified kernel slopes. -/
def generalizedBackgroundTerm (density mass background slope : Sides α) (direction : Vector3 α)
    (wanted : Sides Bool) : Deposits α Unit := do
  Trail.guarded wanted.i do
    let factor ← generalizedBackground background.i mass.j density.i slope.i
    Deposits.make .i (direction.scale (-factor))
  Trail.guarded wanted.j do
    let factor ← generalizedBackground background.j mass.i density.j slope.j
    Deposits.make .j (direction.scale factor)

def transportWeight (rule : DivisionRule) (density : α) : Except (Fault α) α :=
  rule.quotient 1.0 density

end ParticleMomentum.Monaghan
