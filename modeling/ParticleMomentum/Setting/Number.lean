import ParticleMomentum.Decimal.Numeral
import ParticleMomentum.Fault

/-!
# Numbers from settings

Settings are turned into numbers generously: a flag counts as zero or one, and a text may hold a
numeral. What is neither is a fault, and so is a whole number beyond the range of the arithmetic.
-/

namespace ParticleMomentum

variable {α : Type} [Arithmetic α]

namespace Setting

/-- The number nearest to an integer, which must be in range. -/
def numberOfInt (n : Int) : Except (Fault α) α :=
  let x : α := Arithmetic.ofInt n
  if Arithmetic.isFinite x then .ok x else .error .overflow

def Number.toReal : Number α → Except (Fault α) α
  | whole n => numberOfInt n
  | real x => .ok x

def toReal : Setting α → Except (Fault α) α
  | flag b => numberOfInt (if b then 1 else 0)
  | whole n => numberOfInt n
  | real x => .ok x
  | text s =>
    match (Decimal.numeral? s).bind Decimal.Numeral.value? with
    | some x => .ok x
    | none => .error (.unreadable s)
  | _ => .error .notConvertible

/-- A setting read as an integer; a real number loses its fraction. -/
def toInt : Setting α → Except (Fault α) Int
  | flag b => .ok (if b then 1 else 0)
  | whole n => .ok n
  | real x =>
    match Arithmetic.truncate? x with
    | some n => .ok n
    | none => .error (if Arithmetic.isUndefined x then .undefinedNumber else .overflow)
  | text s =>
    match Decimal.integer? s with
    | some n => .ok n
    | none => .error (.unreadable s)
  | _ => .error .notConvertible

end Setting

namespace Settings

def require (s : Settings α) (key : String) : Except (Fault α) (Setting α) :=
  match s.find? key with
  | some v => .ok v
  | none => .error (.missingKey key)

def requireReal (s : Settings α) (key : String) : Except (Fault α) α := do
  (← s.require key).toReal

end Settings

end ParticleMomentum
