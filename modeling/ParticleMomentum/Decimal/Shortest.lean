import ParticleMomentum.Arithmetic.Double

/-!
# Shortest decimals

The fewest decimal digits that still single out a double among all doubles, and of those the ones
nearest to it. A double `m * 2 ^ q` owns the reals that round to it: an interval that ends halfway to
its neighbours and holds its ends exactly when `m` is even. For one digit, two digits and so on, the two
decimals around the double are tried on that grid; the first grid with a hit wins.

`shortest` writes the digits: positional between `1e-4` and `1e16`, with an exponent of at least two
digits elsewhere.
-/

namespace ParticleMomentum.Decimal

/-- The decimal `digits * 10 ^ exponent`. -/
structure Scaled where
  digits : Nat
  exponent : Int
  deriving DecidableEq, Repr

/-- Compares `a * 10 ^ t` with `b * 2 ^ q`. -/
def compareScaled (a : Nat) (t : Int) (b : Nat) (q : Int) : Ordering :=
  compare (a * (Nat.pow 10 t.toNat * Nat.pow 2 (-q).toNat))
    (b * (Nat.pow 10 (-t).toNat * Nat.pow 2 q.toNat))

/-- The least `p` with `m * 2 ^ q < 10 ^ p`, for a positive `m`: the length of the integer part where
that is not empty. -/
def magnitude (m : Nat) (q : Int) : Int :=
  let estimate := ((Nat.log2 m : Int) + q) * 30103 / 100000
  let below (p : Int) : Bool := compareScaled 1 p m q == .gt
  if below (estimate - 1) then estimate - 1
  else if below estimate then estimate
  else if below (estimate + 1) then estimate + 1
  else estimate + 2

/-- The integer part of `m * 2 ^ q / 10 ^ t`. -/
def gridFloor (m : Nat) (q t : Int) : Nat :=
  m * (Nat.pow 10 (-t).toNat * Nat.pow 2 q.toNat) / (Nat.pow 10 t.toNat * Nat.pow 2 (-q).toNat)

/-- The reals that round to the double `m * 2 ^ q`, scaled by `4 / 2 ^ q`: from `lower` to `upper`, with
the ends exactly when `closed`. Below a power of two the neighbour is half as far. -/
structure Basin where
  lower : Nat
  upper : Nat
  closed : Bool

/-- The basin of a positive double. -/
def Basin.of (m : Nat) (q : Int) : Basin :=
  { lower := if m == Nat.pow 2 52 && q > -1074 then 4 * m - 1 else 4 * m - 2
    upper := 4 * m + 2
    closed := m % 2 == 0 }

/-- The decimal `a * 10 ^ t` lies in a basin at scale `q`. -/
def Basin.holds (b : Basin) (q : Int) (a : Nat) (t : Int) : Bool :=
  let low := compareScaled a t b.lower (q - 2)
  let high := compareScaled a t b.upper (q - 2)
  (low == .gt || b.closed && low == .eq) && (high == .lt || b.closed && high == .eq)

/-- The neighbour of `m * 2 ^ q` on the grid of multiples of `10 ^ t` that lies in the basin; the nearer
one if both do, and the even one if they are equally near. -/
def Basin.onGrid? (b : Basin) (m : Nat) (q t : Int) : Option Nat :=
  let below := gridFloor m q t
  let above := below + 1
  match b.holds q below t && below > 0, b.holds q above t with
  | true, true =>
    -- `below + above` halves is the midpoint of the two decimals
    match compareScaled (below + above) t (2 * m) q with
    | .gt => some below
    | .lt => some above
    | .eq => some (if below % 2 == 0 then below else above)
  | true, false => some below
  | false, true => some above
  | false, false => none

/-- Tries grids of `n`, `n + 1`, … digits; the last one allowed always holds a hit for doubles. -/
def searchGrids (b : Basin) (m : Nat) (q p : Int) : Nat → Nat → Scaled
  | 0, n => ⟨gridFloor m q (p - n), p - n⟩
  | tries + 1, n =>
    match b.onGrid? m q (p - n) with
    | some a => ⟨a, p - n⟩
    | none => searchGrids b m q p tries (n + 1)

/-- The shortest decimal of the positive double `m * 2 ^ q`. -/
def shortestScaled (m : Nat) (q : Int) : Scaled :=
  searchGrids (Basin.of m q) m q (magnitude m q) 17 1

/-- Drops final zeros of the digits. -/
def Scaled.trim (s : Scaled) : Nat → Scaled
  | 0 => s
  | fuel + 1 =>
    if s.digits % 10 == 0 && s.digits > 0 then Scaled.trim ⟨s.digits / 10, s.exponent + 1⟩ fuel else s

/-- The digits of a natural number. -/
def numerals (n : Nat) : String := String.ofList (Nat.toDigits 10 n)

/-- A signed exponent of at least two digits. -/
def exponentText (e : Int) : String :=
  let size := numerals e.natAbs
  (if e < 0 then "e-" else "e+") ++ (if size.length < 2 then "0" ++ size else size)

def zeros (n : Nat) : String := String.ofList (List.replicate n '0')

/-- Writes digits with the decimal point after the first `point` of them. A whole number shows one
decimal. -/
def positional (text : String) (point : Int) : String :=
  if point ≤ 0 then "0." ++ zeros (-point).toNat ++ text
  else if text.length ≤ point.toNat then text ++ zeros (point.toNat - text.length) ++ ".0"
  else (text.take point.toNat).toString ++ "." ++ (text.drop point.toNat).toString

/-- Writes digits as one digit, the rest after a point, and an exponent. -/
def exponential (text : String) (exponent : Int) : String :=
  let rest := (text.drop 1).toString
  (text.take 1).toString ++ (if rest.isEmpty then "" else "." ++ rest) ++ exponentText exponent

/-- The text of a positive decimal: positional when the exponent of its first digit is from -4 to 15. -/
def Scaled.render (s : Scaled) : String :=
  let text := numerals s.digits
  let point := s.exponent + text.length
  if point < -3 || point > 16 then exponential text (point - 1) else positional text point

/-- The shortest text that reads back as the double. -/
def shortest (x : Float) : String :=
  match Double.parts x with
  | .undefined => "nan"
  | .infinite negative => if negative then "-inf" else "inf"
  | .finite negative m q =>
    (if negative then "-" else "") ++
      if m == 0 then "0.0" else ((shortestScaled m q).trim 20).render

end ParticleMomentum.Decimal
