import ParticleMomentum.Setting.Number

/-!
# Bounds of numeric settings

The range in which each numeric setting must lie, both ends included, and how it is presented. A setting
in a bounded place must be a number, and a flag is none there.
-/

namespace ParticleMomentum

/-- The range of a numeric setting, its label, its usual value and the format of its display. -/
structure Bound (α : Type) where
  key : String
  label : String
  least : Setting α
  greatest : Setting α
  usual : Setting α
  format : String

namespace Bound

variable {α : Type} [Arithmetic α]

def decimals (places : String) : String := "\x7b:." ++ places ++ "f\x7d"

def wholeNumber : String := "\x7b:d\x7d"

def scientificTwo : String := "\x7b:.2e\x7d"

/-- The bounds in the order in which they are checked. -/
def all : List (Bound α) :=
  [⟨"support_radius", "Support Radius rc", .real 1e-6, .real 1e3, .real 0.3, decimals "3"⟩,
   ⟨"kernel_space_dim", "Kernel Dimension", .whole 1, .whole 3, .whole 3, wholeNumber⟩,
   ⟨"lattice_n", "Lattice Edge N", .whole 2, .whole 64, .whole 6, wholeNumber⟩,
   ⟨"lattice_spacing", "Lattice Spacing", .real 1e-6, .real 1e3, .real 0.1, decimals "3"⟩,
   ⟨"lattice_jitter", "Lattice Jitter", .real 0.0, .real 1e3, .real 0.01, decimals "3"⟩,
   ⟨"density", "Density rho0", .real 1e-9, .real 1e9, .real 1000.0, decimals "1"⟩,
   ⟨"speed_of_sound", "Speed of Sound c0", .real 0.0, .real 1e6, .real 10.0, decimals "2"⟩,
   ⟨"density_perturbation", "Density Perturb.", .real 0.0, .real 0.5, .real 0.01, decimals "3"⟩,
   ⟨"velocity_scale", "Velocity Scale", .real 0.0, .real 1e6, .real 0.1, decimals "2"⟩,
   ⟨"dynamic_viscosity", "Dyn. Viscosity mu", .real 0.0, .real 1e6, .real 1e-3, scientificTwo⟩,
   ⟨"bulk_viscosity", "Bulk Viscosity", .real 0.0, .real 1e6, .real 0.0, scientificTwo⟩,
   ⟨"background_pressure", "Background Press.", .real 0.0, .real 1e12, .real 0.0, scientificTwo⟩]

def record (b : Bound α) : String × Setting α :=
  (b.key, .record [("label", .text b.label), ("min", b.least), ("max", b.greatest),
    ("val", b.usual), ("fmt", .text b.format)])

/-- A number lies within a bound. -/
def holds (b : Bound α) (x : Setting.Number α) : Bool :=
  match b.least.number?, b.greatest.number? with
  | some least, some greatest => least.atMost x && x.atMost greatest
  | _, _ => false

/-- The number that a bounded setting is. -/
def numeric? : Setting α → Option (Setting.Number α)
  | .flag _ => none
  | s => s.number?

/-- Checks one bound against settings; a name that is not set is not checked. -/
def check (b : Bound α) (settings : Settings α) : Except (Fault α) Unit :=
  match settings.find? b.key with
  | none => .ok ()
  | some value =>
    match numeric? value with
    | none => .error (.notNumeric b.key value)
    | some x => if b.holds x then .ok () else .error (.outOfRange b.key value b.least b.greatest)

end Bound

def Settings.validate {α : Type} [Arithmetic α] (settings : Settings α) : Except (Fault α) Unit :=
  Bound.all.forM fun b => b.check settings

def Settings.defaults {α : Type} [Arithmetic α] : Settings α :=
  [("default_formulation", .text "adami"),
   ("default_kernel", .text "cubic_spline"),
   ("momentum_backend", .text "numba"),
   ("support_radius", .real 0.3),
   ("kernel_space_dim", .whole 3),
   ("lattice_n", .whole 6),
   ("lattice_spacing", .real 0.1),
   ("lattice_jitter", .real 0.01),
   ("seed", .whole 42),
   ("density", .real 1000.0),
   ("speed_of_sound", .real 10.0),
   ("density_perturbation", .real 0.01),
   ("velocity_scale", .real 0.1),
   ("dynamic_viscosity", .real 1e-3),
   ("bulk_viscosity", .real 0.0),
   ("background_pressure_type", .text "none"),
   ("background_pressure", .real 0.0),
   ("transport_velocity", .flag false),
   ("PLOT_SETTINGS", .record
     [("enable_plotting", .flag false),
      ("output_dir", .text "output"),
      ("n_samples", .whole 200)])]

end ParticleMomentum
