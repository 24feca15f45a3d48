import ParticleMomentum.Decimal.Scientific
import ParticleMomentum.Evaluation.Mode
import ParticleMomentum.Fault
import ParticleMomentum.Particles.Attribute
import ParticleMomentum.Setting.Text

/-!
# The wording of faults

`Fault.message` says in one line what went wrong.
-/

namespace ParticleMomentum

def nameList (names : List String) : String := bracketed (names.map Text.quoted)

/-- The coefficient and the four viscosities that led to it, with six decimals each. -/
def NegativeDiffusion.message (d : NegativeDiffusion Float) : String :=
  let six := Decimal.scientific 6
  let pair (s : Sides Float) : String := "(" ++ six s.i ++ ", " ++ six s.j ++ ")"
  "diffusion coefficient is negative! (" ++ six d.coefficient ++ " from visc=" ++ pair d.viscosity
    ++ ", bulk_visc=" ++ pair d.bulkViscosity ++ ")"

/-- The system's number and words for a file fault, and the path in quotes. -/
def FileFault.message : FileFault → String
  | alreadyExists path => "[Errno 17] File exists: " ++ Text.quoted path
  | notADirectory path => "[Errno 20] Not a directory: " ++ Text.quoted path
  | notFound path => "[Errno 2] No such file or directory: " ++ Text.quoted path
  | isADirectory path => "[Errno 21] Is a directory: " ++ Text.quoted path
  | nameTooLong path => "[Errno 36] File name too long: " ++ Text.quoted path
  | unusable _ => "embedded null byte"

def WriteFault.message : WriteFault → String
  | file f => f.message
  | drawing reason => reason

/-- What went wrong, in one line. -/
def Fault.message : Fault Float → String
  | zeroDivisor => "division by zero"
  | overflow => "(34, 'Numerical result out of range')"
  | missingKey key => Text.quoted key
  | notConvertible => "a number or a numeral is needed"
  | unreadable s => "could not convert string to float: " ++ Text.quoted s
  | undefinedNumber => "cannot convert float NaN to integer"
  | notARecord => "settings must be a record"
  | ambiguousFlag => "several flags at once are neither a yes nor a no"
  | notAssignable => "names can be set in a record only"
  | notMergeable => "settings cannot be merged with this value"
  | mergeItemSize => "an item to be merged must be a name and a value"
  | unusableKey (.record _) => "unhashable type: 'dict'"
  | unusableKey _ => "unhashable type: 'list'"
  | notNumeric key value =>
    "Parameter '" ++ key ++ "' must be numeric, got " ++ value.literal
  | outOfRange key value least greatest =>
    "Parameter '" ++ key ++ "'=" ++ value.display ++ " outside allowed range [" ++ least.display
      ++ ", " ++ greatest.display ++ "]"
  | beyondMachineInteger => "a whole number must fit into sixty-four bits"
  | placesOutOfRange => "the number of decimals is out of range"
  | incompleteDefinition catalogue definition =>
    catalogue ++ " definition is missing required keys: " ++ definition.literal
  | duplicateId id =>
    "Duplicate formulation id '" ++ id.display ++ "' in AVAILABLE_FORMULATIONS."
  | unknownId kind id available =>
    "Unknown " ++ kind ++ " id '" ++ id.display ++ "'. Available: "
      ++ bracketed (available.map Setting.literal)
  | emptyModuleName => "Empty module name"
  | noSuchModule name => "No module named " ++ Text.quoted name
  | relativeModuleName => "a module name must not start with a point"
  | noSuchClass name => "No class named " ++ Text.quoted name
  | noFullName name => Text.quoted name ++ " is no class and has no full name"
  | nothingSelected => "nothing is selected"
  | radiusNotPositive kernel =>
    kernel ++ " requires a positive 'support_radius' in configuration."
  | dimensionNotAllowed kernel got =>
    kernel ++ ": 'kernel_space_dim' must be one of (1, 2, 3), got " ++ got.display ++ "."
  | kernelNotReadyForPairs kernel =>
    "Kernel " ++ kernel ++ " must be set up before building neighbor pairs."
  | countNotNatural got => "N must be a non-negative integer, got " ++ got.display
  | countIsAFlag => "a flag is no count"
  | unknownAttribute name =>
    "Unknown particle attribute: '" ++ name.display ++ "'. Valid: "
      ++ nameList (Attribute.all.map Attribute.name)
  | unlistedNames => "names must be a text or a sequence"
  | shapeMismatch column expected got =>
    "Shape mismatch for '" ++ column ++ "': expected " ++ shapeText expected ++ ", got "
      ++ shapeText got
  | raggedData => "setting an array element with a sequence."
  | notBroadcastable => "could not broadcast input array"
  | indexOutOfRange => "index out of range"
  | positionsShape got => "positions must have shape (N, 3), got " ++ shapeText got
  | positionsNotFinite => "data must be finite, check for nan or inf values"
  | positionsTooFarApart =>
    "Encountering floating point overflow. The value of p too large for this dataset; "
      ++ "For such large p, consider using the special case p=np.inf . "
  | negativeDiffusion report => report.message
  | formulationNotReady formulation =>
    "Formulation " ++ formulation ++ " must be initialized and set up first."
  | kernelNotReady kernel => "Kernel " ++ kernel ++ " must be set up first."
  | unknownBackground got =>
    "Unknown background_pressure_type '" ++ got.display ++ "'. Valid: "
      ++ nameList (Background.all.map Background.name)
  | unknownBackend got =>
    "Unknown momentum_backend '" ++ got.display ++ "'. Valid: "
      ++ nameList (Backend.all.map Backend.name)
  | noFusedLoop formulation =>
    "Formulation " ++ formulation ++ " has no compiled pair loop; use momentum_backend='python'."
  | evaluatorNotSetUp => "MomentumEvaluator.setup() must be called before evaluate()."
  | derivativesShape pairs =>
    "Modified kernel derivatives must have shape (" ++ toString pairs ++ ",)"
  | noPairs => "there are no pairs"
  | noCount => "what does not exist has no length"
  | negativeCount => "the number of samples must not be negative"
  | file f => f.message
  | notAPath => "a path must be a text"

end ParticleMomentum
