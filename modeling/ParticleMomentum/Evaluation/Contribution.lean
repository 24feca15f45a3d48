import ParticleMomentum.Neighbours
import ParticleMomentum.Pair.Deposit
import ParticleMomentum.Particles.Ensemble

/-!
# Contributions

A pair contributes vectors to the accelerations and to the modified accelerations of its particles.
`sweep` goes through a list of pairs and adds up their contributions in order, until a fault stops it;
what was added before the fault stays.
-/

namespace ParticleMomentum

inductive Target where
  | acceleration
  | modifiedAcceleration
  deriving DecidableEq, Repr

/-- A vector to be added to an accumulator of a particle of a pair. -/
structure Contribution (α : Type) where
  target : Target
  side : Side
  amount : Vector3 α

/-- A computation on a pair that makes contributions, in order, and may be stopped by a fault. -/
abbrev Contributions (α : Type) : Type → Type := Trail (Contribution α) (Fault α)

def Deposits.into {α β : Type} (target : Target) (t : Deposits α β) : Contributions α β :=
  ⟨t.items.map fun d => ⟨target, d.side, d.amount⟩, t.result⟩

/-- A pair of an evaluation: its row, and the modified slopes of the kernel on either side. -/
structure PairInput (n : Nat) (α : Type) where
  row : PairRow n α
  modifiedSlope : Sides α

namespace Particle

variable {α : Type} [Arithmetic α]

def add (p : Particle α) (target : Target) (amount : Vector3 α) : Particle α :=
  match target with
  | .acceleration => { p with acceleration := p.acceleration + amount }
  | .modifiedAcceleration => { p with modifiedAcceleration := p.modifiedAcceleration + amount }

end Particle

namespace Ensemble

variable {n : Nat} {α : Type} [Arithmetic α]

def sides (e : Ensemble n α) (row : PairRow n α) : Sides (Particle α) :=
  ⟨e.particles[row.particles.i], e.particles[row.particles.j]⟩

def contribute (row : PairRow n α) (e : Ensemble n α) (c : Contribution α) : Ensemble n α :=
  e.modifyParticle (row.particles.get c.side) fun p => p.add c.target c.amount

/-- Goes through pairs and adds up what they contribute, until a fault. -/
def sweep (contributions : PairInput n α → Contributions α Unit) (e : Ensemble n α) :
    List (PairInput n α) → Ensemble n α × Except (Fault α) Unit
  | [] => (e, .ok ())
  | input :: rest =>
    let trail := contributions input
    let e' := trail.items.foldl (contribute input.row) e
    match trail.result with
    | .ok () => sweep contributions e' rest
    | .error f => (e', .error f)

end Ensemble

end ParticleMomentum
