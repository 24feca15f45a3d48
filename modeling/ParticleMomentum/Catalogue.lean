import ParticleMomentum.Formulation
import ParticleMomentum.Smoothing.Kernel

/-!
# Catalogues

Formulations and kernels are chosen from catalogues. A definition is a record with an identifier, a name
and the class that implements it. Identifiers are looked up from the front, so the first definition with
an identifier counts.
-/

namespace ParticleMomentum

/-- An entry of a catalogue. -/
abbrev Definition (α : Type) : Type := Settings α

namespace Catalogue

variable {α : Type} [Arithmetic α]

def formulations : List (Definition α) :=
  [[("id", .text "monaghan"),
    ("name", .text "Monaghan"),
    ("description", .text ("Classical formulation: kernel gradient scaled by neighbour mass, "
      ++ "density^2 normalised terms.")),
    ("module", .text "sphsim.momentum.monaghan"),
    ("class", .text FormulationClass.monaghan.className),
    ("notes", .text ("Shear term combines shear and bulk viscosity; "
      ++ "rejects negative diffusion coefficients."))],
   [("id", .text "adami"),
    ("name", .text "Adami"),
    ("description", .text ("Summed squared particle volume prefactor with inverse-density "
      ++ "weighted pressure.")),
    ("module", .text "sphsim.momentum.adami"),
    ("class", .text FormulationClass.adami.className),
    ("notes", .text "Better conditioned near free surfaces and interfaces. No bulk viscosity.")]]

def kernels : List (Definition α) :=
  [[("id", .text "cubic_spline"),
    ("name", .text "Cubic Spline"),
    ("description", .text "M4 cubic B-spline kernel with support radius 2h."),
    ("module", .text "sphsim.kernel.spline_kernels"),
    ("class", .text Spline.cubic.className)],
   [("id", .text "quintic_spline"),
    ("name", .text "Quintic Spline"),
    ("description", .text "M6 quintic B-spline kernel with support radius 3h."),
    ("module", .text "sphsim.kernel.spline_kernels"),
    ("class", .text Spline.quintic.className)]]

/-- The names that a definition must set. -/
def requiredKeys : List String := ["id", "name", "module", "class"]

def isComplete (d : Definition α) : Bool := requiredKeys.all d.has

/-- Refuses a definition that lacks a required name. -/
def checkComplete (catalogue : String) (d : Definition α) : Except (Fault α) Unit :=
  if isComplete d then .ok () else .error (.incompleteDefinition catalogue (.record d))

/-- Checks a catalogue of kernels: every definition must be complete. -/
def validateKernels : List (Definition α) → Except (Fault α) Unit
  | [] => .ok ()
  | d :: rest => do
    checkComplete "Kernel" d
    validateKernels rest

/-- Checks that an identifier can be looked up and is not among those seen before. -/
def checkNewId (seen : List (Setting α)) (id : Setting α) : Except (Fault α) Unit :=
  if !id.isKey then .error (.unusableKey id)
  else if seen.any id.same then .error (.duplicateId id)
  else .ok ()

/-- Checks a catalogue of formulations: every definition must be complete, and no identifier may come
twice. -/
def validateFormulations : List (Definition α) → Except (Fault α) Unit :=
  go []
where
  /-- Checks the definitions after those with the identifiers `seen`. -/
  go (seen : List (Setting α)) : List (Definition α) → Except (Fault α) Unit
    | [] => .ok ()
    | d :: rest => do
      checkComplete "Formulation" d
      let id ← d.require "id"
      checkNewId seen id
      go (id :: seen) rest

def find (definitions : List (Definition α)) (id : Setting α) (kind : String) :
    Except (Fault α) (Definition α) :=
  go definitions
where
  /-- Looks through the remaining definitions. -/
  go : List (Definition α) → Except (Fault α) (Definition α)
    | [] => do .error (.unknownId kind id (← definitions.mapM (·.require "id")))
    | d :: rest => do
      if (← d.require "id").same id then return d else go rest

def textOf (d : Definition α) (key : String) : String :=
  match d.find? key with
  | some (.text t) => t
  | _ => ""

def className (d : Definition α) : String := textOf d "class"

/-- What a class name stands for, among what there is. -/
def resolveClass {β : Type} (d : Definition α) (lookup : String → Option β) :
    Except (Fault α) β :=
  match lookup (className d) with
  | some b => .ok b
  | none => .error (.noSuchClass (className d))

def createFormulation (id config : Setting α) : Except (Fault α) (Formulation α) := do
  let d ← find formulations id "momentum formulation"
  let kind ← resolveClass d FormulationClass.ofClassName?
  return Formulation.create kind (← config.holder)

def createKernel (id config : Setting α) : Except (Fault α) (Kernel α) := do
  let d ← find kernels id "kernel"
  let spline ← resolveClass d Spline.ofClassName?
  Kernel.create spline (← config.holder)

end Catalogue

end ParticleMomentum
