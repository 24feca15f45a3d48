import ParticleMomentum.Pair.Scheme
import ParticleMomentum.Setting.Holder

/-!
# Formulations

A formulation is a scheme under a class name and a number, with settings of its own. It is initialized
in two phases, which may come in any order and more than once; it is ready after both.
-/

namespace ParticleMomentum

/-- What a formulation is called, the number that selects its branch of the fused pair loop, and the
scheme it follows. -/
structure FormulationClass where
  className : String
  number : Int
  scheme : Scheme
  deriving DecidableEq, Repr

namespace FormulationClass

def monaghan : FormulationClass := ⟨"MomentumFormulationMonaghan", 0, .monaghan⟩

def adami : FormulationClass := ⟨"MomentumFormulationAdami", 1, .adami⟩

def ofScheme : Scheme → FormulationClass
  | .monaghan => monaghan
  | .adami => adami

def ofClassName? (name : String) : Option FormulationClass :=
  [monaghan, adami].find? (·.className == name)

/-- The fused pair loop has a branch for the formulation. -/
def hasFusedLoop (c : FormulationClass) : Bool :=
  c.number == monaghan.number || c.number == adami.number

/-- The formulation is subject to the check of diffusion coefficients. -/
def checksDiffusion (c : FormulationClass) : Bool := c.number == monaghan.number

end FormulationClass

structure Formulation (α : Type) where
  kind : FormulationClass
  config : Setting α
  initialized : Bool
  setUp : Bool

namespace Formulation

variable {α : Type} [Arithmetic α]

def make (kind : FormulationClass) (config : Setting α) : Formulation α :=
  ⟨kind, config, false, false⟩

def begin (f : Formulation α) : Formulation α := { f with initialized := true }

def setup (f : Formulation α) : Formulation α := { f with setUp := true }

def create (kind : FormulationClass) (config : Setting α) : Formulation α :=
  (make kind config).begin.setup

def ready (f : Formulation α) : Bool := f.initialized && f.setUp

/-- Merges new settings, unless they are empty. -/
def updateConfig (f : Formulation α) (config : Setting α) : Formulation α × Except (Fault α) Unit :=
  if config.truth then
    let (merged, result) := f.config.update config
    ({ f with config := merged }, result)
  else (f, .ok ())

inductive Edit (α : Type) where
  | beginning
  | setup
  | update (config : Setting α)

def edit (f : Formulation α) : Edit α → Formulation α × Except (Fault α) Unit
  | .beginning => (f.begin, .ok ())
  | .setup => (f.setup, .ok ())
  | .update config => f.updateConfig config

end Formulation

end ParticleMomentum
