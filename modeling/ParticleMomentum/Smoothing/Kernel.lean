import ParticleMomentum.Setting.Holder
import ParticleMomentum.Setting.Number
import ParticleMomentum.Smoothing.Spline

/-!
# Smoothing kernels

A kernel is a spline profile scaled to a support radius in one, two or three dimensions. It holds its
own settings; `Kernel.setup` reads them and derives the smoothing length and the normalization. A setup
that fails keeps what it had derived up to then, and a kernel that was ready stays ready.
-/

namespace ParticleMomentum

structure Kernel (α : Type) where
  spline : Spline
  config : Setting α
  supportRadius : α
  dimension : Nat
  smoothingLength : α
  normalization : α
  ready : Bool

namespace Kernel

variable {α : Type} [Arithmetic α]

def make (spline : Spline) (config : Setting α) : Kernel α :=
  { spline, config
    supportRadius := 0.0
    dimension := 3
    smoothingLength := 0.0
    normalization := 0.0
    ready := false }

/-- The support radius that the settings ask for: a number that is not zero or less. -/
def wantedRadius (k : Kernel α) : Except (Fault α) (Setting.Number α) := do
  match (← k.config.lookup "support_radius").bind Setting.number? with
  | some radius =>
    if radius.atMost (.whole 0) then .error (.radiusNotPositive k.spline.className) else .ok radius
  | none => .error (.radiusNotPositive k.spline.className)

def dimension? (s : Setting α) : Option Nat :=
  [1, 2, 3].find? fun d => s.same (.whole (d : Nat))

/-- The dimension that the settings ask for: one, two or three, and three by default. -/
def wantedDimension (k : Kernel α) : Except (Fault α) Nat := do
  let wanted ← k.config.lookupD "kernel_space_dim" (.whole 3)
  match dimension? wanted with
  | some d => .ok d
  | none => .error (.dimensionNotAllowed k.spline.className wanted)

/-- Reads the settings. Radius, dimension and smoothing length are in place before the normalization is
tried. -/
def setup (k : Kernel α) : Kernel α × Except (Fault α) Unit :=
  let wanted : Except (Fault α) (α × Nat) := do
    let radius ← k.wantedRadius
    let dimension ← k.wantedDimension
    return (← radius.toReal, dimension)
  match wanted with
  | .error e => (k, .error e)
  | .ok (radius, dimension) =>
    let h := radius / k.spline.supportRatio
    let k := { k with supportRadius := radius, dimension, smoothingLength := h }
    match k.spline.normalization dimension h with
    | .error e => (k, .error e)
    | .ok c => ({ k with normalization := c, ready := true }, .ok ())

def create (spline : Spline) (config : Setting α) : Except (Fault α) (Kernel α) :=
  match (make spline config).setup with
  | (k, .ok ()) => .ok k
  | (_, .error e) => .error e

/-- The factor of the convection part of a shear term: two more than the dimension. -/
def convectionFactor (k : Kernel α) : α := Arithmetic.ofInt (k.dimension + 2)

def value (k : Kernel α) (r : α) : α :=
  k.normalization * k.spline.profile (r / k.smoothingLength)

/-- The factor of all slopes of a kernel. -/
def slopeFactor (k : Kernel α) : Except (Fault α) α :=
  Arithmetic.quotient k.normalization k.smoothingLength

/-- The derivative of the kernel at a separation, given the factor of all slopes. -/
def slopeWith (k : Kernel α) (factor : α) (sampling : Sampling) (r : α) : α :=
  factor * k.spline.profileSlope sampling (r / k.smoothingLength)

def slope (k : Kernel α) (r : α) : Except (Fault α) α := do
  return k.slopeWith (← k.slopeFactor) .single r

def slopes (k : Kernel α) (sampling : Sampling) (rs : List α) : Except (Fault α) (List α) := do
  let factor ← k.slopeFactor
  return rs.map (k.slopeWith factor sampling)

inductive Edit (α : Type) where
  | put (key : String) (value : Setting α)
  | erase (key : String)
  | setup

/-- A kernel with other settings, if they could be made. -/
def reconfigured (k : Kernel α) :
    Except (Fault α) (Setting α) → Kernel α × Except (Fault α) Unit
  | .ok config => ({ k with config }, .ok ())
  | .error e => (k, .error e)

/-- Carries out an edit. A name can be erased only where it is set. -/
def edit (k : Kernel α) : Edit α → Kernel α × Except (Fault α) Unit
  | .put key value => k.reconfigured (k.config.assign key value)
  | .erase key => k.reconfigured (k.config.discard key)
  | .setup => k.setup

end Kernel

end ParticleMomentum
