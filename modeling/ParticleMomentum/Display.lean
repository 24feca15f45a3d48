import ParticleMomentum.Decimal.Scientific
import ParticleMomentum.MachineInteger
import ParticleMomentum.Particles.Block
import ParticleMomentum.Setting.Number

/-!
# Display of results

Results are shown in scientific notation. What is no finite number is shown as a dash, and what is
practically zero as zero.
-/

namespace ParticleMomentum.Display

/-- The text for what is no finite number. -/
def dash : String := "-"

/-- The text for what is practically zero. -/
def zeroText : String := "0.0e+00"

/-- Numbers of a smaller size are shown as zero. -/
def zeroThreshold : Float := 1e-15

def mostPlaces : Nat := Nat.pow 2 31

/-- A number with some decimals; their count must be in range. -/
def number (places : Int) (x : Float) : Except (Fault Float) String :=
  if !x.isFinite then .ok dash
  else if x.abs < zeroThreshold then .ok zeroText
  else
    match places with
    | .ofNat p => if p < mostPlaces then .ok (Decimal.scientific p x) else .error .placesOutOfRange
    | .negSucc _ => .error .placesOutOfRange

/-- A whole number with some decimals. It must fit into sixty-four bits, signed or not. -/
def whole (places : Int) (n : Int) : Except (Fault Float) String :=
  if MachineInteger.fitsSigned n || MachineInteger.fitsUnsigned n then number places (Float.ofInt n)
  else .error .beyondMachineInteger

/-- A text without the null characters at its end. -/
def withoutNulls (s : String) : String :=
  String.ofList (s.toList.reverse.dropWhile (·.toNat == 0)).reverse

/-- A setting as a double. Nothing becomes the undefined number. -/
def doubleOf : Setting Float → Except (Fault Float) Float
  | .null => .ok (Double.ofSpecial .undefined)
  | .text s => (Setting.text (withoutNulls s)).toReal
  | other => other.toReal

mutual

/-- The data that a setting makes: sequences are lists, and all else are entries. -/
def nested : Setting Float → Nested (Setting Float)
  | .sequence items => .list (nestedItems items)
  | other => .entry other

/-- The data that the items of a sequence make. -/
def nestedItems : List (Setting Float) → List (Nested (Setting Float))
  | [] => []
  | x :: xs => nested x :: nestedItems xs

end

/-- A setting with its numbers turned into doubles. A sequence must make a block of doubles, and stays
what it is. -/
def converted (s : Setting Float) : Except (Fault Float) (Setting Float) :=
  match s with
  | .sequence _ =>
    match (nested s).toBlock? with
    | none => .error .raggedData
    | some b => do
      b.entries.toList.forM fun entry => do
        let _ ← doubleOf entry
      return s
  | other => do return .real (← doubleOf other)

def setting (places : Int) : Setting Float → Except (Fault Float) String
  | .flag b => whole places (if b then 1 else 0)
  | .whole n => whole places n
  | .real x => number places x
  | _ => .ok dash

def four (x : Float) : String :=
  if !x.isFinite then dash
  else if x.abs < zeroThreshold then zeroText
  else Decimal.scientific 4 x

end ParticleMomentum.Display
