import ParticleMomentum.Pair.Scheme

/-!
# Terms on accumulators

A single term can be asked for with accumulators that receive what it deposits: one for each side, the
same for both, or none for a side, which is then left out. Deposits are added in order; those that were
made before a fault stay.
-/

namespace ParticleMomentum

/-- A term of a pair with the state of both particles that it needs. -/
inductive Term (α : Type) where
  | pressureGradient (density pressure : Sides α)
  | shearForces (density : Sides α) (velocity : Sides (Vector3 α)) (convectionFactor : α)
      (viscosity bulkViscosity : Sides α) (distance : α)
  | standardBackground (density background : Sides α)
  | generalizedBackground (density mass background slope : Sides α)
  | transportCorrection (density : Sides α) (velocity : Sides (Vector3 α))
      (modified : Sides (Option (Vector3 α)))

/-- Vectors by name, to which deposits are added. -/
abbrev Accumulators (α : Type) : Type := List (String × Vector3 α)

variable {α : Type} [Arithmetic α]

namespace Accumulators

def add (accumulators : Accumulators α) (name : String) (v : Vector3 α) : Accumulators α :=
  accumulators.map fun (k, a) => if k == name then (k, a + v) else (k, a)

/-- Adds a deposit to the accumulator of its side, if there is one. -/
def receive (targets : Sides (Option String)) (accumulators : Accumulators α) (d : Deposit α) :
    Accumulators α :=
  match targets.get d.side with
  | some name => accumulators.add name d.amount
  | none => accumulators

end Accumulators

namespace Term

/-- What a term deposits by a scheme, where wanted. -/
def deposits (term : Term α) (scheme : Scheme) (rule : DivisionRule) (coefficient : Sides α)
    (direction : Vector3 α) (wanted : Sides Bool) : Deposits α Unit :=
  match term with
  | pressureGradient density pressure =>
    scheme.pressureGradient density pressure coefficient direction wanted
  | shearForces density velocity convectionFactor viscosity bulkViscosity distance =>
    scheme.shearForces rule density velocity convectionFactor viscosity bulkViscosity distance
      coefficient direction wanted
  | standardBackground density background =>
    scheme.standardBackground density background coefficient direction wanted
  | generalizedBackground density mass background slope =>
    scheme.generalizedBackground density mass background slope direction wanted
  | transportCorrection density velocity modified =>
    scheme.transportCorrection rule density velocity modified coefficient direction wanted

/-- Adds what a term deposits, under a rule of division, to the accumulators that are named for the
sides. -/
def addBy (term : Term α) (scheme : Scheme) (rule : DivisionRule) (coefficient : Sides α)
    (direction : Vector3 α) (targets : Sides (Option String)) (accumulators : Accumulators α) :
    Accumulators α × Except (Fault α) Unit :=
  let t := term.deposits scheme rule coefficient direction (targets.map Option.isSome)
  (t.items.foldl (Accumulators.receive targets) accumulators, t.result)

/-- A term that is asked for by itself divides by the strict rule. -/
def addTo (term : Term α) (scheme : Scheme) : Sides α → Vector3 α → Sides (Option String) →
    Accumulators α → Accumulators α × Except (Fault α) Unit :=
  term.addBy scheme .strict

end Term

end ParticleMomentum
