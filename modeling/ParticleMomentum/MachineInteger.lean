/-!
# Machine integers

Integers in arrays, and those that address them, have sixty-four bits.
-/

namespace ParticleMomentum.MachineInteger

/-- An integer that fits into sixty-four bits, one of which is the sign. -/
def fitsSigned (i : Int) : Bool := -(Nat.pow 2 63 : Int) ≤ i && i < Nat.pow 2 63

/-- An integer that fits into sixty-four bits without a sign. -/
def fitsUnsigned (i : Int) : Bool := 0 ≤ i && i < Nat.pow 2 64

end ParticleMomentum.MachineInteger
