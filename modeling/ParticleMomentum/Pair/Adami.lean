import ParticleMomentum.Pair.Deposit

/-!
# The Adami scheme

The coefficient of a pair is the sum of both squared particle volumes over the own mass, the pressure is
weighted with inverse densities, and the shear term takes the harmonic mean of both viscosities. Bulk
viscosity plays no part.
-/

namespace ParticleMomentum.Adami

variable {α : Type} [Arithmetic α]

/-- The coefficient that scales all terms of a pair: both squared volumes, times the slope of the
smoothing kernel per own mass. -/
def coefficients (density mass slope : Sides α) : Except (Fault α) (Sides α) := do
  let volumeI ← Arithmetic.quotient mass.i density.i
  let volumeJ ← Arithmetic.quotient mass.j density.j
  let factor := volumeI * volumeI + volumeJ * volumeJ
  let ofI ← Arithmetic.quotient slope.i mass.i
  let ofJ ← Arithmetic.quotient slope.j mass.j
  return ⟨factor * ofI, factor * ofJ⟩

/-- The mean of both pressures, each weighted with the density of the other side. -/
def pressureFactor (density pressure : Sides α) : Except (Fault α) α :=
  Arithmetic.quotient (density.i * pressure.j + density.j * pressure.i) (density.i + density.j)

/-- The generalized background pressure on one side: it takes the own mass. -/
def generalizedBackground (pressure massSelf density slope : α) : Except (Fault α) α :=
  Arithmetic.quotient (pressure * massSelf * slope) (density * density)

def isViscous (viscosity : Sides α) : Bool := 0.0 < viscosity.i && 0.0 < viscosity.j

/-- The harmonic mean of both viscosities, where both are positive; else zero. -/
def meanViscosity (viscosity : Sides α) : Except (Fault α) α :=
  if isViscous viscosity then
    Arithmetic.quotient (2.0 * viscosity.i * viscosity.j) (viscosity.i + viscosity.j)
  else .ok 0.0

def pressureGradient (density pressure coefficient : Sides α) (direction : Vector3 α)
    (wanted : Sides Bool) : Deposits α Unit := do
  let factor ← pressureFactor density pressure
  Deposits.onSides wanted
    (direction.scale (-coefficient.i * factor)) (direction.scale (coefficient.j * factor))

/-- The shear forces; there are none unless both sides are viscous. -/
def shearForces (rule : DivisionRule) (velocity : Sides (Vector3 α)) (viscosity : Sides α)
    (distance : α) (coefficient : Sides α) (wanted : Sides Bool) : Deposits α Unit := do
  if isViscous viscosity then
    let mean ← meanViscosity viscosity
    let relativeVelocity := velocity.i - velocity.j
    let factor ← (rule.quotient mean distance : Except (Fault α) α)
    Deposits.onSides wanted
      (relativeVelocity.scale (coefficient.i * factor))
      (relativeVelocity.scale (-coefficient.j * factor))

def standardBackground (background coefficient : Sides α) (direction : Vector3 α)
    (wanted : Sides Bool) : Deposits α Unit :=
  Deposits.onSides wanted
    (direction.scale (-coefficient.i * background.i))
    (direction.scale (coefficient.j * background.j))

/-- The generalized background pressure, along modified kernel slopes. -/
def generalizedBackgroundTerm (density mass background slope : Sides α) (direction : Vector3 α)
    (wanted : Sides Bool) : Deposits α Unit := do
  Trail.guarded wanted.i do
    let factor ← generalizedBackground background.i mass.i density.i slope.i
    Deposits.make .i (direction.scale (-factor))
  Trail.guarded wanted.j do
    let factor ← generalizedBackground background.j mass.j density.j slope.j
    Deposits.make .j (direction.scale factor)

def transportWeight (density : α) : α := 0.5 * density

end ParticleMomentum.Adami
