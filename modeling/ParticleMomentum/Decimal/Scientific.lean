import ParticleMomentum.Decimal.Shortest

/-!
# Scientific notation with a fixed number of decimals

`scientific places x` is the exact value of a double rounded to `places` decimals after the first
digit, a tie going to the even digit.
-/

namespace ParticleMomentum.Decimal

/-- The quotient rounded to the nearest natural number, a tie to the even one. -/
def roundQuotient (numerator denominator : Nat) : Nat :=
  let floor := numerator / denominator
  match compare (2 * (numerator % denominator)) denominator with
  | .lt => floor
  | .gt => floor + 1
  | .eq => if floor % 2 == 0 then floor else floor + 1

/-- `m * 2 ^ q` rounded to a multiple of `10 ^ t`, in multiples. -/
def roundToGrid (m : Nat) (q t : Int) : Nat :=
  roundQuotient (m * (Nat.pow 10 (-t).toNat * Nat.pow 2 q.toNat))
    (Nat.pow 10 t.toNat * Nat.pow 2 (-q).toNat)

/-- One digit, `places` more after the point, and the exponent. The digits are known to be
`places + 1` many. -/
def withPlaces (places : Nat) (digitRun : Nat) (exponent : Int) : String :=
  let text := numerals digitRun
  let text := text ++ zeros (places + 1 - text.length)
  (text.take 1).toString ++ (if places == 0 then "" else "." ++ (text.drop 1).toString) ++
    exponentText exponent

/-- The text of `m * 2 ^ q` with `places` decimals. Rounding up to a power of ten moves the exponent. -/
def scientificMagnitude (places m : Nat) (q : Int) : String :=
  if m == 0 then withPlaces places 0 0
  else
    let p := magnitude m q
    let rounded := roundToGrid m q (p - 1 - places)
    if rounded == Nat.pow 10 (places + 1) then withPlaces places (Nat.pow 10 places) p
    else withPlaces places rounded (p - 1)

def scientific (places : Nat) (x : Float) : String :=
  match Double.parts x with
  | .undefined => "nan"
  | .infinite negative => if negative then "-inf" else "inf"
  | .finite negative m q => (if negative then "-" else "") ++ scientificMagnitude places m q

end ParticleMomentum.Decimal
