import ParticleMomentum.Arithmetic
import ParticleMomentum.Text.Blank
import ParticleMomentum.Text.Digit

/-!
# Numerals

Reading numbers from text. Blanks may stand around a numeral, a sign before it, and single underscores
between its digits; the digits may be of any script.
-/

namespace ParticleMomentum.Decimal

open ParticleMomentum.Text

/-- Blanks that may surround a numeral: of ASCII only the usual six, and beyond it all of them. -/
def surroundingBlank (c : Char) : Bool :=
  c == ' ' || (9 ≤ c.toNat && c.toNat ≤ 13) || (127 < c.toNat && isBlank c)

def plainDigits (cs : List Char) : List Char :=
  cs.map fun c => match digitValue? c with
    | some d => Char.ofNat (48 + d)
    | none => c

/-- The numeral of a text without its surroundings. -/
def core (s : String) : List Char :=
  plainDigits (trimBlanks surroundingBlank s.toList)

/-- Splits off a sign; `true` means negative. -/
def splitSign : List Char → Bool × List Char
  | '-' :: rest => (true, rest)
  | '+' :: rest => (false, rest)
  | cs => (false, cs)

/-- Removes the underscores, which must each stand between two digits. -/
def dropUnderscores? : Bool → List Char → Option (List Char)
  | _, [] => some []
  | afterDigit, '_' :: rest =>
    match rest with
    | d :: _ => if afterDigit && d.isDigit then dropUnderscores? false rest else none
    | [] => none
  | _, c :: rest => (dropUnderscores? c.isDigit rest).map (c :: ·)

def digitsValue (cs : List Char) : Nat := cs.foldl (fun n c => 10 * n + (c.toNat - 48)) 0

/-- A nonempty run of digits only. -/
def digitsOnly? (cs : List Char) : Option Nat :=
  if cs.isEmpty || !cs.all Char.isDigit then none else some (digitsValue cs)

/-- The longest integer numeral that is read. -/
def longestInteger : Nat := 4300

def integer? (s : String) : Option Int := do
  let (negative, body) := splitSign (core s)
  let ds ← dropUnderscores? false body
  let n ← digitsOnly? ds
  if ds.length > longestInteger then none
  else some (if negative then -(n : Int) else n)

inductive Numeral where
  | decimal (negative : Bool) (digits : Nat) (exponent : Int)
  | special (negative : Bool) (s : Special)
  deriving DecidableEq, Repr

/-- Reads the exponent of a numeral, if one follows. -/
def exponent? : List Char → Option Int
  | [] => some 0
  | e :: rest =>
    if e == 'e' || e == 'E' then
      let (negative, ds) := splitSign rest
      (digitsOnly? ds).map fun n => if negative then -(n : Int) else n
    else none

/-- Reads digits, a point, more digits and an exponent; there must be a digit before the exponent. -/
def decimal? (negative : Bool) (cs : List Char) : Option Numeral := do
  let whole := cs.takeWhile Char.isDigit
  let rest := cs.dropWhile Char.isDigit
  let (places, rest) := match rest with
    | '.' :: more => (more.takeWhile Char.isDigit, more.dropWhile Char.isDigit)
    | _ => ([], rest)
  if whole.isEmpty && places.isEmpty then none
  else
    let e ← exponent? rest
    some (.decimal negative (digitsValue (whole ++ places)) (e - places.length))

/-- Reads a number. Infinity and the undefined number have names, in any case of letters. -/
def numeral? (s : String) : Option Numeral := do
  let (negative, body) := splitSign (core s)
  let name := String.ofList (body.map Char.toLower)
  if name == "inf" || name == "infinity" then some (.special negative .infinity)
  else if name == "nan" then some (.special negative .undefined)
  else decimal? negative (← dropUnderscores? false body)

/-- The number that a numeral denotes, where there is one. -/
def Numeral.value? {α : Type} [Arithmetic α] : Numeral → Option α
  | .decimal negative digits exponent =>
    let size : α := Arithmetic.ofDecimal digits exponent
    some (if negative then -size else size)
  | .special negative s => (Arithmetic.ofSpecial? s).map fun x : α => if negative then -x else x

end ParticleMomentum.Decimal
