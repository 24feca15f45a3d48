import ParticleMomentum.Fault

/-!
# Spline profiles

The cubic and the quintic B-spline that smooth a particle over its surroundings. Both are sums of
truncated powers of `n - q`, where `q` is the separation in smoothing lengths, so that no piece has to
be selected.
-/

namespace ParticleMomentum

inductive Spline where
  | cubic
  | quintic
  deriving DecidableEq, Repr

/-- How separations are sampled. One by one, a square is a power like any other; in bulk it is a
product. On doubles the two differ in the last bit. -/
inductive Sampling where
  | single
  | bulk
  deriving DecidableEq, Repr

/-- How data of a shape are sampled: in bulk, unless it is a single number of no dimension. -/
def Sampling.ofShape (shape : List Nat) : Sampling := if shape.isEmpty then .single else .bulk

namespace Spline

variable {α : Type} [Arithmetic α]

open Arithmetic

def className : Spline → String
  | cubic => "CubicSplineKernel"
  | quintic => "QuinticSplineKernel"

def ofClassName? (name : String) : Option Spline :=
  [cubic, quintic].find? (·.className == name)

/-- The support radius in smoothing lengths. -/
def supportRatio : Spline → α
  | cubic => 2.0
  | quintic => 3.0

/-- The factor that makes the integral over space one, in one, two or three dimensions. -/
def normalization (spline : Spline) (dimension : Nat) (h : α) : Except (Fault α) α :=
  match spline with
  | cubic =>
    if dimension = 1 then quotient 2.0 (3.0 * h)
    else if dimension = 2 then do quotient 10.0 (7.0 * pi * (← boundedPower h 2))
    else do quotient 1.0 (pi * (← boundedPower h 3))
  | quintic =>
    if dimension = 1 then quotient 1.0 (120.0 * h)
    else if dimension = 2 then do quotient 7.0 (478.0 * pi * (← boundedPower h 2))
    else do quotient 1.0 (120.0 * pi * (← boundedPower h 3))

/-- The profile at `q` smoothing lengths, before normalization. -/
def profile (spline : Spline) (q : α) : α :=
  match spline with
  | cubic =>
    0.25 * power (positivePart (2.0 - q)) 3 - power (positivePart (1.0 - q)) 3
  | quintic =>
    power (positivePart (3.0 - q)) 5 - 6.0 * power (positivePart (2.0 - q)) 5
      + 15.0 * power (positivePart (1.0 - q)) 5

/-- The square of a number, as the sampling takes it. -/
def square (sampling : Sampling) (x : α) : α :=
  match sampling with
  | .single => power x 2
  | .bulk => x * x

/-- The derivative of the profile at `q` smoothing lengths. -/
def profileSlope (spline : Spline) (sampling : Sampling) (q : α) : α :=
  match spline with
  | cubic =>
    -0.75 * square sampling (positivePart (2.0 - q)) + 3.0 * square sampling (positivePart (1.0 - q))
  | quintic =>
    -5.0 * power (positivePart (3.0 - q)) 4 + 30.0 * power (positivePart (2.0 - q)) 4
      - 75.0 * power (positivePart (1.0 - q)) 4

end Spline

end ParticleMomentum
