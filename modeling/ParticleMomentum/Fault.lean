import ParticleMomentum.Pair.Sides
import ParticleMomentum.Setting

/-!
# Faults

Everything that can stop a computation, by cause. `ParticleMomentum.Fault.Message` holds the wording.
-/

namespace ParticleMomentum

/-- A negative diffusion coefficient and the viscosities that led to it. -/
structure NegativeDiffusion (α : Type) where
  coefficient : α
  viscosity : Sides α
  bulkViscosity : Sides α

inductive FileFault where
  /-- Something that is no directory has the name already. -/
  | alreadyExists (path : String)
  /-- A part of the path is a file. -/
  | notADirectory (path : String)
  | notFound (path : String)
  | isADirectory (path : String)
  | nameTooLong (path : String)
  /-- The path holds the null character. -/
  | unusable (path : String)
  deriving DecidableEq, Repr

/-- Why a document could not be written: the file could not be, or the page could not be drawn. -/
inductive WriteFault where
  | file (f : FileFault)
  | drawing (reason : String)
  deriving DecidableEq, Repr

/-- A cause that stops a computation. -/
inductive Fault (α : Type) where
  -- arithmetic
  | zeroDivisor
  | overflow
  -- reading settings
  | missingKey (key : String)
  | notConvertible
  | unreadable (s : String)
  | undefinedNumber
  | notARecord
  | ambiguousFlag
  | notAssignable
  | notMergeable
  | mergeItemSize
  | unusableKey (s : Setting α)
  | notNumeric (key : String) (value : Setting α)
  | outOfRange (key : String) (value least greatest : Setting α)
  -- display
  | beyondMachineInteger
  | placesOutOfRange
  -- catalogues
  | incompleteDefinition (catalogue : String) (definition : Setting α)
  | duplicateId (id : Setting α)
  | unknownId (kind : String) (id : Setting α) (available : List (Setting α))
  | emptyModuleName
  | noSuchModule (name : String)
  | relativeModuleName
  | noSuchClass (name : String)
  | noFullName (name : String)
  | nothingSelected
  -- smoothing kernels
  | radiusNotPositive (kernel : String)
  | dimensionNotAllowed (kernel : String) (got : Setting α)
  | kernelNotReadyForPairs (kernel : String)
  -- particles
  | countNotNatural (got : Setting α)
  | countIsAFlag
  | unknownAttribute (name : Setting α)
  | unlistedNames
  | shapeMismatch (column : String) (expected got : List Nat)
  | raggedData
  | notBroadcastable
  | indexOutOfRange
  -- pairs
  | positionsShape (got : List Nat)
  | positionsNotFinite
  | positionsTooFarApart
  | negativeDiffusion (report : NegativeDiffusion α)
  -- evaluation
  | formulationNotReady (formulation : String)
  | kernelNotReady (kernel : String)
  | unknownBackground (got : Setting α)
  | unknownBackend (got : Setting α)
  | noFusedLoop (formulation : String)
  | evaluatorNotSetUp
  | derivativesShape (pairs : Nat)
  | noPairs
  | noCount
  -- profiles and reports
  | negativeCount
  | file (f : FileFault)
  | notAPath

namespace Arithmetic

variable {α : Type} [Arithmetic α]

/-- The quotient; a zero divisor is refused. -/
def quotient (x y : α) : Except (Fault α) α :=
  if isZero y then .error .zeroDivisor else .ok (x / y)

/-- The power; one that leaves the finite numbers is refused. -/
def boundedPower (x : α) (k : Nat) : Except (Fault α) α :=
  let p := power x k
  if isFinite x && !isFinite p && !isUndefined p then .error .overflow else .ok p

end Arithmetic

/-- How a division treats a zero divisor: it is refused, or the quotient is an extended number. -/
inductive DivisionRule where
  | strict
  | extended
  deriving DecidableEq, Repr

/-- The quotient under a division rule. -/
def DivisionRule.quotient {α : Type} [Arithmetic α] (rule : DivisionRule) (x y : α) :
    Except (Fault α) α :=
  match rule with
  | .strict => Arithmetic.quotient x y
  | .extended => .ok (x / y)

end ParticleMomentum
