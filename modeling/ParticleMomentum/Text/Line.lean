/-!
# Lines

A text shown to a user may hold line breaks, and then takes several lines.
-/

namespace ParticleMomentum.Text

def breakCodes : List Nat := [0xA, 0xB, 0xC, 0xD, 0x1C, 0x1D, 0x1E, 0x85, 0x2028, 0x2029]

def isBreak (c : Char) : Bool := breakCodes.contains c.toNat

/-- The lines of a text; there is at least one. A carriage return and a line feed make one break. -/
def linesOf : List Char → List (List Char)
  | [] => [[]]
  | '\r' :: '\n' :: rest => [] :: linesOf rest
  | c :: rest =>
    if isBreak c then [] :: linesOf rest
    else
      match linesOf rest with
      | [] => [[c]]
      | line :: lines => (c :: line) :: lines

def lines (s : String) : List String := (linesOf s.toList).map String.ofList

end ParticleMomentum.Text
