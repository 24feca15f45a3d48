import ParticleMomentum.Pair.Adami
import ParticleMomentum.Pair.Monaghan

/-!
# Schemes

A scheme turns the state of two particles into the momentum that they exchange. Both schemes offer the
same six operations on a pair: the coefficients that scale the rest, the pressure gradient, the shear
forces, two kinds of background pressure, and the correction for a modified transport velocity.
-/

namespace ParticleMomentum

/-- The pairwise discretisations of the momentum equation. -/
inductive Scheme where
  | monaghan
  | adami
  deriving DecidableEq, Repr

namespace Scheme

variable {α : Type} [Arithmetic α]

/-- The coefficients that scale the terms of a pair, one for each side. -/
def coefficients (scheme : Scheme) (density mass slope : Sides α) : Except (Fault α) (Sides α) :=
  match scheme with
  | monaghan => .ok (Monaghan.coefficients mass slope)
  | adami => Adami.coefficients density mass slope

def pressureGradient (scheme : Scheme) (density pressure coefficient : Sides α)
    (direction : Vector3 α) (wanted : Sides Bool) : Deposits α Unit :=
  match scheme with
  | monaghan => Monaghan.pressureGradient density pressure coefficient direction wanted
  | adami => Adami.pressureGradient density pressure coefficient direction wanted

def shearForces (scheme : Scheme) (rule : DivisionRule) (density : Sides α)
    (velocity : Sides (Vector3 α)) (convectionFactor : α) (viscosity bulkViscosity : Sides α)
    (distance : α) (coefficient : Sides α) (direction : Vector3 α) (wanted : Sides Bool) :
    Deposits α Unit :=
  match scheme with
  | monaghan => Monaghan.shearForces density velocity convectionFactor viscosity bulkViscosity
      distance coefficient direction wanted
  | adami => Adami.shearForces rule velocity viscosity distance coefficient wanted

def standardBackground (scheme : Scheme) (density background coefficient : Sides α)
    (direction : Vector3 α) (wanted : Sides Bool) : Deposits α Unit :=
  match scheme with
  | monaghan => Monaghan.standardBackground density background coefficient direction wanted
  | adami => Adami.standardBackground background coefficient direction wanted

/-- The generalized background pressure, along modified kernel slopes. -/
def generalizedBackground (scheme : Scheme) (density mass background slope : Sides α)
    (direction : Vector3 α) (wanted : Sides Bool) : Deposits α Unit :=
  match scheme with
  | monaghan => Monaghan.generalizedBackgroundTerm density mass background slope direction wanted
  | adami => Adami.generalizedBackgroundTerm density mass background slope direction wanted

def transportWeight (scheme : Scheme) (rule : DivisionRule) (density : α) : Except (Fault α) α :=
  match scheme with
  | monaghan => Monaghan.transportWeight rule density
  | adami => .ok (Adami.transportWeight density)

/-- The sum with what one side adds to the transport correction: nothing, unless it has a modified
velocity. -/
def addTransport (scheme : Scheme) (rule : DivisionRule) (density : α) (velocity : Vector3 α)
    (modified : Option (Vector3 α)) (direction sum : Vector3 α) : Except (Fault α) (Vector3 α) :=
  match modified with
  | none => .ok sum
  | some m => do
    let weight ← scheme.transportWeight rule density
    return sum + transportTerm weight velocity m direction

/-- The correction for modified transport velocities. A side without one contributes nothing, but
still receives what the other side contributes. -/
def transportCorrection (scheme : Scheme) (rule : DivisionRule) (density : Sides α)
    (velocity : Sides (Vector3 α)) (modified : Sides (Option (Vector3 α))) (coefficient : Sides α)
    (direction : Vector3 α) (wanted : Sides Bool) : Deposits α Unit := do
  let fromI ← scheme.addTransport rule density.i velocity.i modified.i direction Vector3.zero
  let sum ← scheme.addTransport rule density.j velocity.j modified.j direction fromI
  Deposits.onSides wanted (sum.scale coefficient.i) (sum.scale (-coefficient.j))

end Scheme

end ParticleMomentum
