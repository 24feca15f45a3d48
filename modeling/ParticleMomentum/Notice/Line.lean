import ParticleMomentum.Display
import ParticleMomentum.Fault.Message
import ParticleMomentum.Notice
import ParticleMomentum.Text.Line

/-!
# The wording of notices

`Notice.line` is the line that a notice shows. An evaluation shows how long it took; the duration is
known only to who runs it.
-/

namespace ParticleMomentum

def padded (width : Nat) (s : String) : String :=
  s ++ String.ofList (List.replicate (width - s.length) ' ')

/-- The line of a notice; `milliseconds` is how long an evaluation took. -/
def Notice.line (milliseconds : String) : Notice Float → String
  | selectingFormulation id =>
    "FormulationManager: Selecting momentum formulation '" ++ id.display ++ "'..."
  | selectingKernel id => "FormulationManager: Selecting kernel '" ++ id.display ++ "'..."
  | coincidentSkipped count =>
    "Warning: build_neighbor_pairs skipped " ++ toString count ++ " coincident particle pair(s)."
  | negativeDiffusionAt labels =>
    "ERROR: MomentumEvaluator: negative diffusion coefficient for pair (" ++ toString labels.i
      ++ ", " ++ toString labels.j ++ "); nothing accumulated."
  | evaluated => "Timing: " ++ padded 25 "evaluate" ++ " executed in " ++ milliseconds ++ " ms"
  | scenario particles pairs formulation =>
    "Scenario: N=" ++ toString particles ++ ", pairs=" ++ toString pairs ++ ", formulation="
      ++ (formulation.getD .null).display
  | scenarioFailed fault => "ERROR: Scenario failed: " ++ fault.message
  | greatestAcceleration x => "  Max |acc|      : " ++ Display.four x
  | momentumRate rate => "  Momentum rate  : " ++ bracketed (rate.toList.map Display.four)
  | noSuchModule name => "ERROR: Module '" ++ name ++ "' not found."
  | noSuchClass name module =>
    "ERROR: Class '" ++ name ++ "' not found in module '" ++ module ++ "'."
  | generating path => "Generating plots PDF: " ++ path
  | generated path => "Successfully generated PDF: " ++ path
  | generationFailed reason => "ERROR during PDF generation process: " ++ reason.message

def Notice.lines (milliseconds : String) (n : Notice Float) : List String :=
  Text.lines (n.line milliseconds)

end ParticleMomentum
