import ParticleMomentum.Fault
import ParticleMomentum.Trail
import ParticleMomentum.Vector3

/-!
# Terms of a pair

A pair term deposits vectors on the two sides of a pair. A deposit is a side and the vector to be added
there; what is deposited never depends on what a side has received before. A term may be wanted for one
side only: then nothing is deposited on the other.
-/

namespace ParticleMomentum

/-- A vector to be added on one side of a pair. -/
structure Deposit (α : Type) where
  side : Side
  amount : Vector3 α

/-- A computation on a pair that makes deposits, in order, and may be stopped by a fault. -/
abbrev Deposits (α : Type) : Type → Type := Trail (Deposit α) (Fault α)

namespace Deposits

variable {α : Type}

def make (side : Side) (amount : Vector3 α) : Deposits α Unit := Trail.emit ⟨side, amount⟩

/-- Deposits `onI` on side `i` and then `onJ` on side `j`, where wanted. -/
def onSides (wanted : Sides Bool) (onI onJ : Vector3 α) : Deposits α Unit := do
  Trail.guarded wanted.i (make .i onI)
  Trail.guarded wanted.j (make .j onJ)

/-- The two sides after the deposits of a term. -/
def applyTo [Arithmetic α] (t : Deposits α Unit) (sides : Sides (Vector3 α)) : Sides (Vector3 α) :=
  t.items.foldl (fun s d =>
    match d.side with
    | .i => { s with i := s.i + d.amount }
    | .j => { s with j := s.j + d.amount }) sides

end Deposits

/-- The part of the transport correction that one particle contributes: its velocity, weighted with the
part of its velocity correction that points along the pair. -/
def transportTerm {α : Type} [Arithmetic α] (weight : α) (velocity modified direction : Vector3 α) :
    Vector3 α :=
  let along := 0.0 + (modified.x - velocity.x) * direction.x
    + (modified.y - velocity.y) * direction.y
    + (modified.z - velocity.z) * direction.z
  Vector3.scale (weight * along) velocity

end ParticleMomentum
