/-!
# Random numbers

Sequences of random numbers. A seeded sequence computes each number from its index alone: a counter that
starts at the seed goes up in odd steps, and its bits are stirred. Normal numbers are made from two
uniform ones each.
-/

namespace ParticleMomentum

/-- A sequence of random numbers. -/
abbrev Draws (α : Type) : Type := Nat → α

namespace Draws

/-- Stirs the bits of a word. Each step can be undone, so different words stay different. -/
def stir (w : UInt64) : UInt64 :=
  let w := (w ^^^ (w >>> 30)) * 0xbf58476d1ce4e5b9
  let w := (w ^^^ (w >>> 27)) * 0x94d049bb133111eb
  w ^^^ (w >>> 31)

/-- Uniform numbers, from zero up to but not including one: multiples of `2 ^ (-53)`. -/
def uniform (seed : UInt64) : Draws Float := fun k =>
  (stir (seed + (k.toUInt64 + 1) * 0x9e3779b97f4a7c15) >>> 11).toFloat / 9007199254740992.0

/-- Normal numbers with mean zero and deviation one. -/
def normal (seed : UInt64) : Draws Float := fun k =>
  let u := uniform seed (2 * k)
  let v := uniform seed (2 * k + 1)
  (-2.0 * (1.0 - u).log).sqrt * (6.283185307179586 * v).cos

/-- Uniform numbers up to a count, then normal ones from a seed of their own. -/
def uniformThenNormal (count : Nat) (seed : UInt64) : Draws Float := fun k =>
  if k < count then uniform seed k else normal (stir (seed + 1)) (k - count)

end Draws

end ParticleMomentum
