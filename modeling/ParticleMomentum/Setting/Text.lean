import ParticleMomentum.Decimal.Shortest
import ParticleMomentum.Setting
import ParticleMomentum.Text.Quoted

/-!
# The text of settings

How a setting is written in messages. `literal` shows its kind as well, so that texts stand in quotes;
`display` shows a text as it is.
-/

namespace ParticleMomentum

def bracketed (items : List String) : String := "[" ++ ", ".intercalate items ++ "]"

/-- The sizes of an array along its dimensions; a single one is followed by a comma. -/
def shapeText : List Nat → String
  | [n] => "(" ++ toString n ++ ",)"
  | sizes => "(" ++ ", ".intercalate (sizes.map toString) ++ ")"

namespace Setting

mutual

/-- A setting with its kind shown. -/
def literal : Setting Float → String
  | null => "None"
  | flag b => if b then "True" else "False"
  | whole n => toString n
  | real x => Decimal.shortest x
  | text s => Text.quoted s
  | sequence items => bracketed (itemTexts items)
  | record fields => "\x7b" ++ ", ".intercalate (fieldTexts fields) ++ "\x7d"

def itemTexts : List (Setting Float) → List String
  | [] => []
  | x :: xs => literal x :: itemTexts xs

/-- The fields of a record, each with its name in quotes. -/
def fieldTexts : List (String × Setting Float) → List String
  | [] => []
  | (k, x) :: xs => (Text.quoted k ++ ": " ++ literal x) :: fieldTexts xs

end

def display : Setting Float → String
  | text s => s
  | other => other.literal

end Setting

end ParticleMomentum
