import ParticleMomentum.Evaluation.Contribution
import ParticleMomentum.Evaluation.Plan

/-!
# The stepwise pair loop

For each pair with an owned particle the formulation is asked for its terms, one after the other:
coefficients, pressure gradient, shear forces, background pressure, transport correction. A side that is
not owned is not asked for.
-/

namespace ParticleMomentum.Stepwise

variable {α : Type} [Arithmetic α] {n : Nat}

def pressureGradient (scheme : Scheme) (p : Sides (Particle α)) (coefficient : Sides α)
    (direction : Vector3 α) : Contributions α Unit :=
  (scheme.pressureGradient (p.map (·.density)) (p.map (·.pressure)) coefficient direction
    (p.map (·.owned))).into .acceleration

def shear (scheme : Scheme) (convectionFactor : α) (p : Sides (Particle α)) (distance : α)
    (coefficient : Sides α) (direction : Vector3 α) : Contributions α Unit :=
  (scheme.shearForces .extended (p.map (·.density)) (p.map (·.velocity)) convectionFactor
    (p.map (·.viscosity)) (p.map (·.bulkViscosity)) distance coefficient direction
    (p.map (·.owned))).into .acceleration

def background (scheme : Scheme) (kind : Background) (p : Sides (Particle α))
    (coefficient modifiedSlope : Sides α) (direction : Vector3 α) : Contributions α Unit :=
  let pressure := p.map (·.backgroundPressure)
  match kind with
  | .off => pure ()
  | .standard =>
    (scheme.standardBackground (p.map (·.density)) pressure coefficient direction
      (p.map (·.owned))).into .modifiedAcceleration
  | .generalized =>
    (scheme.generalizedBackground (p.map (·.density)) (p.map (·.mass)) pressure modifiedSlope
      direction (p.map (·.owned))).into .modifiedAcceleration

/-- The transport correction; every particle has a modified velocity. -/
def transport (scheme : Scheme) (p : Sides (Particle α)) (coefficient : Sides α)
    (direction : Vector3 α) : Contributions α Unit :=
  (scheme.transportCorrection .extended (p.map (·.density)) (p.map (·.velocity))
    (p.map fun q => some q.modifiedVelocity) coefficient direction (p.map (·.owned))).into
    .acceleration

def ownedPair (scheme : Scheme) (plan : Plan α) (p : Sides (Particle α)) (input : PairInput n α) :
    Contributions α Unit := do
  let direction := input.row.direction
  let coefficient ← scheme.coefficients (p.map (·.density)) (p.map (·.mass)) input.row.slope
  pressureGradient scheme p coefficient direction
  shear scheme plan.convectionFactor p input.row.distance coefficient direction
  background scheme plan.background p coefficient input.modifiedSlope direction
  Trail.guarded plan.transport (transport scheme p coefficient direction)

/-- The contributions of a pair: none unless one of its particles is owned. -/
def pair (scheme : Scheme) (plan : Plan α) (p : Sides (Particle α)) (input : PairInput n α) :
    Contributions α Unit :=
  Trail.guarded (p.i.owned || p.j.owned) (ownedPair scheme plan p input)

end ParticleMomentum.Stepwise
