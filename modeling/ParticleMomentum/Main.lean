import ParticleMomentum.CommandLine
import ParticleMomentum.Notice.Line

/-!
# The program

Runs the command line on the usual settings, prints what it has to tell, and ends with its exit code.
-/

namespace ParticleMomentum.CommandLine

/-- The random numbers of a run: seeded by the settings, for the lattice that they describe. -/
def randomNumbers (settings : Settings Float) : Draws Float :=
  let seed := match settings.find? "seed" with
    | some (.whole n) => UInt64.ofInt n
    | _ => 42
  match CubicLattice.ofSettings settings with
  | .ok lattice => Draws.uniformThenNormal lattice.uniformDraws seed
  | .error _ => Draws.uniform seed

/-- A duration in nanoseconds as milliseconds with three decimals. -/
def millisecondText (nanoseconds : Nat) : String :=
  let microseconds := (nanoseconds + 500) / 1000
  let decimals := toString (microseconds % 1000)
  toString (microseconds / 1000) ++ "." ++ "".pushn '0' (3 - decimals.length) ++ decimals

end ParticleMomentum.CommandLine

open ParticleMomentum CommandLine in
def main (arguments : List String) : IO UInt32 := do
  let settings : Settings Float := Settings.defaults
  let start ← IO.monoNanosNow
  let outcome ← IO.lazyPure fun _ =>
    (run "" arguments settings (randomNumbers settings) (FileTree.empty "")).1
  let finish ← IO.monoNanosNow
  for notice in outcome.items do
    for line in notice.lines (millisecondText (finish - start)) do
      IO.println line
  match outcome.result with
  | .ok o => return UInt32.ofNat o.exitCode
  | .error fault =>
    IO.eprintln fault.message
    return 1
