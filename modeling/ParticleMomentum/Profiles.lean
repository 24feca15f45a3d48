import ParticleMomentum.Catalogue

/-!
# Pair profiles

How strongly two equal particles act on each other, over their separation: the size of the pressure
gradient and of the shear acceleration of one of them, for every formulation of the catalogue.
-/

namespace ParticleMomentum

abbrev Series (α : Type) : Type := String × List α

structure ProfileState (α : Type) where
  density : α
  mass : α
  pressure : α
  viscosity : α
  bulkViscosity : α
  /-- The speed of one particle across the pair; the other one rests. -/
  speed : α

structure FormulationProfile (α : Type) where
  id : String
  pressure : List α
  shear : List α

structure Profiles (α : Type) where
  separations : List α
  formulations : List (FormulationProfile α)

namespace Profiles

variable {α : Type} [Arithmetic α]

/-- Evenly spaced numbers from `first` to `last`. The last one is exact. Where the step is too small to
be told from zero, the way is divided last. -/
def evenly (first last : α) (count : Nat) : List α :=
  let way := last - first
  let steps : α := Arithmetic.ofInt ((count - 1 : Nat) : Int)
  let step := way / steps
  (List.range count).map fun (k : Nat) =>
    let place : α := Arithmetic.ofInt k
    if count = 1 then place * way + first
    else if k + 1 = count then last
    else if Arithmetic.isZero step then place / steps * way + first
    else place * step + first

def direction : Vector3 α := ⟨1.0, 0.0, 0.0⟩

/-- The size of what a term deposits on side `i`. -/
def sizeOnI (term : Deposits α Unit) : Except (Fault α) α := do
  term.result
  return (term.applyTo (Sides.both Vector3.zero)).i.norm

/-- The side that is looked at. -/
def onlyI : Sides Bool := ⟨true, false⟩

/-- The sizes of pressure gradient and shear at one separation. -/
def sample (scheme : Scheme) (kernel : Kernel α) (s : ProfileState α) (distance slope : α) :
    Except (Fault α) (α × α) := do
  let density := Sides.both s.density
  let coefficient ← scheme.coefficients density (Sides.both s.mass) (Sides.both slope)
  let pressure ← sizeOnI <|
    scheme.pressureGradient density (Sides.both s.pressure) coefficient direction onlyI
  let velocity : Sides (Vector3 α) := ⟨⟨0.0, s.speed, 0.0⟩, Vector3.zero⟩
  let shear ← sizeOnI <|
    scheme.shearForces .extended density velocity kernel.convectionFactor (Sides.both s.viscosity)
      (Sides.both s.bulkViscosity) distance coefficient direction onlyI
  return (pressure, shear)

def ofFormulation (settings : Settings α) (kernel : Kernel α) (s : ProfileState α)
    (points : List (α × α)) (d : Definition α) : Except (Fault α) (FormulationProfile α) := do
  let id ← d.require "id"
  let formulation ← Catalogue.createFormulation id (.record settings)
  let samples ← points.mapM fun (distance, slope) =>
    sample formulation.kind.scheme kernel s distance slope
  return { id := Catalogue.textOf d "id", pressure := samples.map (·.1), shear := samples.map (·.2) }

def plotSettings (settings : Settings α) : Except (Fault α) (Settings α) :=
  match settings.findD "PLOT_SETTINGS" (.record []) with
  | .record fields => .ok fields
  | _ => .error .notARecord

/-- The number of samples that settings ask for. -/
def sampleCount (settings : Settings α) : Except (Fault α) Nat := do
  let plots ← plotSettings settings
  match ← (plots.findD "n_samples" (.whole 200)).toInt with
  | .ofNat n => return n
  | .negSucc _ => throw .negativeCount

/-- The number that a setting is, or another one where it is not set. -/
def realOr (settings : Settings α) (key : String) (usual : α) : Except (Fault α) α :=
  (settings.findD key (.real usual)).toReal

def stateOf (settings : Settings α) (kernel : Kernel α) : Except (Fault α) (ProfileState α) := do
  let density ← realOr settings "density" 1000.0
  let mass := density *
    (← Arithmetic.boundedPower (← realOr settings "lattice_spacing" 0.1) kernel.dimension)
  let squaredSoundSpeed ← Arithmetic.boundedPower (← realOr settings "speed_of_sound" 10.0) 2
  let pressure := squaredSoundSpeed * density * (← realOr settings "density_perturbation" 0.01)
  let viscosity ← realOr settings "dynamic_viscosity" 1e-3
  let bulkViscosity ← realOr settings "bulk_viscosity" 0.0
  let speed ← realOr settings "velocity_scale" 0.1
  return { density, mass, pressure, viscosity, bulkViscosity, speed }

/-- The profiles that settings ask for, from a fiftieth of the support radius on. -/
def compute (settings : Settings α) : Except (Fault α) (Profiles α) := do
  let kernel ← Catalogue.createKernel
    (settings.findD "default_kernel" (.text "cubic_spline")) (.record settings)
  let count ← sampleCount settings
  let separations := evenly (0.02 * kernel.supportRadius) kernel.supportRadius count
  let slopes ← kernel.slopes .bulk separations
  let state ← stateOf settings kernel
  let formulations ← Catalogue.formulations.mapM
    (ofFormulation settings kernel state (separations.zip slopes))
  return { separations, formulations }

/-- All samples by name: the separations, then pressure and shear of each formulation. -/
def series (p : Profiles α) : List (Series α) :=
  ("r", p.separations) :: p.formulations.flatMap fun f =>
    [(f.id ++ "_pressure", f.pressure), (f.id ++ "_shear", f.shear)]

end Profiles

end ParticleMomentum
