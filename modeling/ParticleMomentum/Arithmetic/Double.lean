import ParticleMomentum.Arithmetic

/-!
# Doubles

The numbers that the library runs on. `Double.parts` takes a double apart into sign, significand and
exponent, exactly; comparison with an integer and truncation are integer arithmetic on those parts.
-/

namespace ParticleMomentum

namespace Double

/-- What a double denotes. A finite one is `significand * 2 ^ exponent` with its sign. -/
inductive Parts where
  | finite (negative : Bool) (significand : Nat) (exponent : Int)
  | infinite (negative : Bool)
  | undefined
  deriving DecidableEq, Repr

/-- The parts of the double with the given bits: a sign, eleven bits of exponent and fifty-two of
fraction. -/
def Parts.ofBits (bits : Nat) : Parts :=
  let negative := bits / Nat.pow 2 63 % 2 == 1
  let biased : Nat := bits / Nat.pow 2 52 % Nat.pow 2 11
  let fraction : Nat := bits % Nat.pow 2 52
  if biased == 2047 then
    if fraction == 0 then .infinite negative else .undefined
  else if biased == 0 then .finite negative fraction (-1074)
  else .finite negative (fraction + Nat.pow 2 52) ((biased : Int) - 1075)

def parts (x : Float) : Parts := Parts.ofBits x.toBits.toNat

/-- The integer next to a finite double on the side of zero. -/
def truncate? (x : Float) : Option Int :=
  match parts x with
  | .finite negative significand exponent =>
    let magnitude : Nat := match exponent with
      | .ofNat e => significand * Nat.pow 2 e
      | .negSucc e => significand / Nat.pow 2 (e + 1)
    some (if negative then -(magnitude : Int) else magnitude)
  | _ => none

def compareInt? (x : Float) (n : Int) : Option Ordering :=
  match parts x with
  | .finite negative significand exponent =>
    let signed : Int := if negative then -(significand : Int) else significand
    some <| match exponent with
      | .ofNat e => compare (signed * Nat.pow 2 e) n
      | .negSucc e => compare signed (n * Nat.pow 2 (e + 1))
  | .infinite negative => some (if negative then .lt else .gt)
  | .undefined => none

/-- The double nearest to `digits * 10 ^ exponent`. Beyond the range of doubles the answer is known
without forming the power of ten. -/
def ofDecimal (digits : Nat) (exponent : Int) : Float :=
  if digits == 0 then 0.0
  else
    let order := (Nat.log2 digits * 30103 / 100000 : Nat) + exponent
    if order > 320 then 1.0 / 0.0
    else if order < -400 then 0.0
    else match exponent with
      | .ofNat e => Float.ofScientific digits false e
      | .negSucc e => Float.ofScientific digits true (e + 1)

/-- The double that a special numeral names. -/
def ofSpecial : Special → Float
  | .infinity => 1.0 / 0.0
  | .undefined => 0.0 / 0.0

end Double

instance : Arithmetic Float where
  decidableLE x y := inferInstanceAs (Decidable (x ≤ y))
  decidableLT x y := inferInstanceAs (Decidable (x < y))
  sqrt := Float.sqrt
  power x k := Float.pow x (Float.ofNat k)
  pi := 3.141592653589793
  isFinite := Float.isFinite
  ofInt := Float.ofInt
  ofDecimal := Double.ofDecimal
  ofSpecial? s := some (Double.ofSpecial s)
  truncate? := Double.truncate?
  compareInt? := Double.compareInt?
  toSingle x := x.toFloat32.toFloat

end ParticleMomentum
