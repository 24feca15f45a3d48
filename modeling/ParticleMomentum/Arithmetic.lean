/-!
# Arithmetic

The numbers that the library computes with. Every formula is written once, over the class
`Arithmetic`: doubles run it (`ParticleMomentum.Arithmetic.Double`), and an exact field may read it.

Two properties of doubles shape the class. A comparison may fail both ways, so nothing assumes a
total order; and an operation may leave the finite numbers, so finiteness is a test.
-/

namespace ParticleMomentum

/-- A numeral that names no finite number. -/
inductive Special where
  | infinity
  | undefined
  deriving DecidableEq, Repr

/-- The operations on numbers that the formulas use. Literals come from `OfScientific`. -/
class Arithmetic (α : Type) extends Add α, Sub α, Mul α, Div α, Neg α, OfScientific α, LE α, LT α where
  decidableLE : ∀ x y : α, Decidable (x ≤ y)
  decidableLT : ∀ x y : α, Decidable (x < y)
  sqrt : α → α
  /-- The power with a natural exponent. -/
  power : α → Nat → α
  /-- The ratio of a circle's circumference to its diameter. -/
  pi : α
  isFinite : α → Bool
  /-- The number nearest to an integer; not finite if the integer is out of range. -/
  ofInt : Int → α
  /-- The number nearest to `digits * 10 ^ exponent`. -/
  ofDecimal : Nat → Int → α
  /-- The number that a special numeral names, where there is one. -/
  ofSpecial? : Special → Option α
  /-- The integer next to a finite number on the side of zero. -/
  truncate? : α → Option Int
  /-- The exact comparison of a number with an integer, where the two are comparable. -/
  compareInt? : α → Int → Option Ordering
  /-- The nearest number of single precision. -/
  toSingle : α → α

namespace Arithmetic

variable {α : Type} [Arithmetic α]

instance (x y : α) : Decidable (x ≤ y) := decidableLE x y

instance (x y : α) : Decidable (x < y) := decidableLT x y

/-- Both numbers denote the same value; the two zeros do, and an undefined number equals nothing. -/
def same (x y : α) : Bool := x ≤ y && y ≤ x

/-- A zero of either sign. -/
def isZero (x : α) : Bool := same x 0.0

/-- A number that is not even comparable with itself. -/
def isUndefined (x : α) : Bool := !same x x

/-- The positive part of a number; an undefined number stays undefined. -/
def positivePart (x : α) : α :=
  if 0.0 < x then x else if x ≤ 0.0 then 0.0 else x

/-- The comparison of two numbers, where they are comparable. -/
def compare? (x y : α) : Option Ordering :=
  if x < y then some .lt else if x ≤ y then some .eq else if y < x then some .gt else none

/-- The larger of two numbers; an undefined one wins. -/
def larger (x y : α) : α :=
  if isUndefined x then x else if isUndefined y then y else if x < y then y else x

end Arithmetic

end ParticleMomentum
