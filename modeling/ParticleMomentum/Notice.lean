import ParticleMomentum.Fault
import ParticleMomentum.Vector3

/-!
# Notices

What the library tells its user along the way, by meaning. `ParticleMomentum.Notice.Line` holds the
wording.
-/

namespace ParticleMomentum

/-- A line for the user. -/
inductive Notice (α : Type) where
  | selectingFormulation (id : Setting α)
  | selectingKernel (id : Setting α)
  | coincidentSkipped (count : Nat)
  | negativeDiffusionAt (labels : Sides Int)
  | evaluated
  | scenario (particles pairs : Nat) (formulation : Option (Setting α))
  | scenarioFailed (fault : Fault α)
  | greatestAcceleration (x : α)
  | momentumRate (rate : Vector3 α)
  | noSuchModule (name : String)
  | noSuchClass (name module : String)
  | generating (path : String)
  | generated (path : String)
  | generationFailed (reason : WriteFault)

end ParticleMomentum
