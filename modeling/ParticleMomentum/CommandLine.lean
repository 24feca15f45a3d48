import ParticleMomentum.Report.Document
import ParticleMomentum.Scenario

/-!
# The command line

A run of a scenario with the outcome shown to the user, and the report of the pair profiles where the
settings want it. The first argument names the formulation. A scenario that fails is reported, and the
exit code tells; a fault of the report is a fault of the run.
-/

namespace ParticleMomentum.CommandLine

variable {α : Type} [Arithmetic α]

/-- What a run ends with. -/
structure Outcome (α : Type) where
  exitCode : Nat
  pages : List (Page α)

/-- The settings of a run: the first argument replaces the formulation. -/
def settingsFor (arguments : List String) (settings : Settings α) : Settings α :=
  match arguments with
  | [] => settings
  | id :: _ => settings.put "default_formulation" (.text id)

/-- A scenario whose failure is a value. -/
def attempt (settings : Settings α) (draw : Draws α) :
    Trail (Notice α) (Fault α) (Except (Fault α) (Summary α)) :=
  let t := Scenario.run settings draw
  ⟨t.items, .ok t.result⟩

def report (timestamp : String) (settings : Settings α) :
    Procedure FileTree (Notice α) (Fault α) (List (Page α)) := do
  match ← settings.require "PLOT_SETTINGS" with
  | .record plots =>
    if (Settings.findD plots "enable_plotting" (.flag false)).truth then
      let directory := Settings.findD plots "output_dir" (.text "output")
      return (← Document.generate Document.plainWriter timestamp settings directory).pages
    else return []
  | _ => Procedure.fail .notARecord

def run (timestamp : String) (arguments : List String) (settings : Settings α) (draw : Draws α) :
    Procedure FileTree (Notice α) (Fault α) (Outcome α) := do
  let settings := settingsFor arguments settings
  match ← attempt settings draw with
  | .error f =>
    Procedure.emit (.scenarioFailed f)
    return ⟨1, []⟩
  | .ok summary =>
    Procedure.emit (.greatestAcceleration summary.greatestAcceleration)
    Procedure.emit (.momentumRate summary.momentumRate)
    return ⟨0, ← report timestamp settings⟩

end ParticleMomentum.CommandLine
