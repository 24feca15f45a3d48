import ParticleMomentum.Notice
import ParticleMomentum.Trail

/-!
# The directory of definitions

Classes and functions are looked up by the module that offers them. A module may offer what another one
defines; it then goes by the name of its home module. Tables and constants, and the modules of a package,
can be found as well, but have no full name.
-/

namespace ParticleMomentum.Directory

/-- A name that a module offers, and the home module of a class or a function. -/
structure Offer where
  name : String
  home : Option String
  deriving DecidableEq, Repr

def Offer.fullName? (o : Offer) : Option String := o.home.map (· ++ "." ++ o.name)

/-- Classes and functions that one module defines. -/
def defined (home : String) (names : List String) : List Offer :=
  names.map fun name => ⟨name, some home⟩

/-- Tables, constants and modules. -/
def values (names : List String) : List Offer := names.map fun name => ⟨name, none⟩

def kernelClass : List Offer := defined "sphsim.kernel.base" ["SPHKernel"]

def formulationClass : List Offer := defined "sphsim.momentum.base" ["MomentumFormulation"]

def diffusionFaultClass : List Offer :=
  defined "sphsim.momentum.base" ["NegativeDiffusionCoefficientError"]

def ensembleClass : List Offer := defined "sphsim.particle_data" ["ParticleData"]

def evaluatorClass : List Offer := defined "sphsim.momentum.evaluator" ["MomentumEvaluator"]

def managerClass : List Offer := defined "sphsim.formulation_manager" ["FormulationManager"]

def pairFinder : List Offer := defined "sphsim.neighbor_pairs" ["build_neighbor_pairs"]

def makers : List Offer :=
  defined "sphsim.formulation_manager" ["create_momentum_formulation", "create_kernel"]

def settingsCheck : List Offer := defined "config.param_defs" ["validate_settings"]

def display : List Offer := defined "sphsim.utils" ["format_value_scientific"]

def importer : List Offer := defined "sphsim.utils" ["dynamic_import"]

def timer : List Offer := defined "sphsim.utils" ["timing_decorator"]

def formulas : String := "sphsim.momentum.formulation_kernels"

def sums : List Offer := defined formulas ["add_scaled", "add_transport_term"]

def monaghanFormulas : List Offer :=
  defined formulas ["add_monaghan_shear", "monaghan_specific_coefficient",
    "monaghan_pressure_factor", "monaghan_viscosity_coefficients", "monaghan_background_factor",
    "monaghan_generalized_background"]

def adamiFormulas : List Offer :=
  defined formulas ["adami_specific_coefficient", "adami_pressure_factor", "adami_viscosity",
    "adami_generalized_background"]

/-- The modules and what each of them offers. -/
def modules : List (String × List Offer) :=
  [("config",
    values ["available_formulations", "available_kernels", "default_settings", "param_defs"]),
   ("config.available_formulations",
    values ["AVAILABLE_FORMULATIONS"]
      ++ defined "config.available_formulations" ["_validate_formulations"]),
   ("config.available_kernels",
    values ["AVAILABLE_KERNELS"] ++ defined "config.available_kernels" ["_validate_kernels"]),
   ("config.default_settings", values ["DEFAULT_SETTINGS"]),
   ("config.param_defs", values ["PARAM_DEFS"] ++ settingsCheck),
   ("main",
    values ["PROJECT_ROOT", "DEFAULT_SETTINGS"] ++ ensembleClass ++ pairFinder ++ managerClass
      ++ display ++ defined "main" ["build_lattice", "run_scenario"]),
   ("sphsim",
    values ["formulation_manager", "kernel", "momentum", "neighbor_pairs", "particle_data",
      "plotting", "utils"]),
   ("sphsim.formulation_manager",
    values ["AVAILABLE_FORMULATIONS", "AVAILABLE_KERNELS"] ++ kernelClass ++ formulationClass
      ++ evaluatorClass ++ importer ++ settingsCheck ++ makers ++ managerClass
      ++ defined "sphsim.formulation_manager" ["_find_definition"]),
   ("sphsim.kernel", values ["base", "spline_kernels"]),
   ("sphsim.kernel.base", kernelClass),
   ("sphsim.kernel.spline_kernels",
    values ["pi"] ++ kernelClass ++ defined "sphsim.kernel.spline_kernels"
      ["_trunc", "CubicSplineKernel", "QuinticSplineKernel"]),
   ("sphsim.momentum",
    values ["adami", "base", "evaluator", "formulation_kernels", "monaghan"]),
   ("sphsim.momentum.adami",
    values ["FORMULATION_ID_ADAMI"] ++ formulationClass ++ sums ++ adamiFormulas
      ++ defined "sphsim.momentum.adami" ["MomentumFormulationAdami"]),
   ("sphsim.momentum.base", formulationClass ++ diffusionFaultClass),
   ("sphsim.momentum.evaluator",
    values ["BACKGROUND_PRESSURE_TYPES", "VALID_BACKENDS", "FORMULATION_ID_MONAGHAN",
        "FORMULATION_ID_ADAMI"]
      ++ ensembleClass ++ defined "sphsim.neighbor_pairs" ["NeighborPairs"] ++ kernelClass
      ++ formulationClass ++ diffusionFaultClass ++ sums ++ monaghanFormulas ++ adamiFormulas ++ timer
      ++ evaluatorClass
      ++ defined "sphsim.momentum.evaluator"
        ["first_negative_diffusion_pair", "momentum_pairs_kernel"]),
   (formulas, defined formulas ["dot3"] ++ sums ++ monaghanFormulas ++ adamiFormulas),
   ("sphsim.momentum.monaghan",
    values ["FORMULATION_ID_MONAGHAN"] ++ formulationClass ++ diffusionFaultClass ++ sums
      ++ monaghanFormulas ++ defined "sphsim.momentum.monaghan" ["MomentumFormulationMonaghan"]),
   ("sphsim.neighbor_pairs",
    values ["COINCIDENT_TOLERANCE"] ++ kernelClass ++ pairFinder
      ++ defined "sphsim.neighbor_pairs" ["NeighborPairs"]),
   ("sphsim.particle_data", ensembleClass),
   ("sphsim.plotting",
    values ["AVAILABLE_FORMULATIONS", "TITLE_FONTSIZE", "LABEL_FONTSIZE", "TICK_FONTSIZE",
        "LEGEND_FONTSIZE", "LINE_WIDTH", "GRID_ALPHA"]
      ++ makers ++ defined "sphsim.plotting"
        ["compute_pair_profiles", "_plot_profiles", "generate_pair_profile_pdf"]),
   ("sphsim.utils", timer ++ importer ++ display)]

/-- The full name of what a module offers under a name. A module name must not be empty, nor start with
a point. -/
def resolve {α : Type} (module name : String) : Trail (Notice α) (Fault α) String := do
  if module.isEmpty then Trail.fail .emptyModuleName
  else if module.startsWith "." then Trail.fail .relativeModuleName
  else
    match modules.lookup module with
    | none =>
      Trail.emit (.noSuchModule module)
      Trail.fail (.noSuchModule module)
    | some offers =>
      match offers.find? (·.name == name) with
      | some o =>
        match o.fullName? with
        | some fullName => return fullName
        | none => Trail.fail (.noFullName name)
      | none =>
        Trail.emit (.noSuchClass name module)
        Trail.fail (.noSuchClass name)

end ParticleMomentum.Directory
