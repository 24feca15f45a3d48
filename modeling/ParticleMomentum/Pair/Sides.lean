/-!
# The two sides of a pair

An interacting pair has a side `i` and a side `j`. `Sides β` holds one value for each.
-/

namespace ParticleMomentum

inductive Side where
  | i
  | j
  deriving DecidableEq, Repr

structure Sides (β : Type) where
  i : β
  j : β
  deriving DecidableEq, Repr

namespace Sides

variable {β γ : Type}

def get (s : Sides β) : Side → β
  | .i => s.i
  | .j => s.j

def map (s : Sides β) (f : β → γ) : Sides γ := ⟨f s.i, f s.j⟩

def both (b : β) : Sides β := ⟨b, b⟩

end Sides

end ParticleMomentum
