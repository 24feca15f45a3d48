/-!
# Blanks

The white space of Unicode, which separates words and may stand around a numeral.
-/

namespace ParticleMomentum.Text

def blankCodes : List Nat := [
  0x9, 0xA, 0xB, 0xC, 0xD, 0x1C, 0x1D, 0x1E, 0x1F, 0x20, 0x85, 0xA0, 0x1680, 0x2000, 0x2001,
   0x2002, 0x2003, 0x2004, 0x2005, 0x2006, 0x2007, 0x2008, 0x2009, 0x200A, 0x2028, 0x2029, 0x202F,
   0x205F, 0x3000]

def isBlank (c : Char) : Bool := blankCodes.contains c.toNat

def trimBlanks (blank : Char → Bool) (cs : List Char) : List Char :=
  ((cs.dropWhile blank).reverse.dropWhile blank).reverse

/-- The words of a text: its longest runs without a blank. -/
def words (cs : List Char) : List (List Char) :=
  (go cs []).filter (!·.isEmpty)
where
  /-- Collects the current run, in reverse, in `run`. -/
  go : List Char → List Char → List (List Char)
    | [], run => [run.reverse]
    | c :: rest, run => if isBlank c then run.reverse :: go rest [] else go rest (c :: run)

end ParticleMomentum.Text
