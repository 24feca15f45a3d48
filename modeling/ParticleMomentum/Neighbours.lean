import ParticleMomentum.Notice
import ParticleMomentum.Particles.Block
import ParticleMomentum.Smoothing.Kernel
import ParticleMomentum.Trail

/-!
# Neighbouring pairs

The pairs of particles that interact: `i` before `j`, not farther apart than the support radius, and not
coincident. They come in the order of their indices, each with its distance, the unit vector from `i` to
`j` and the slope of the kernel that both sides feel.
-/

namespace ParticleMomentum

/-- A name of one of `n` particles: its index, or a negative number that counts from the end. -/
structure Label (n : Nat) where
  value : Int
  inRange : -(n : Int) ≤ value ∧ value < n
  deriving DecidableEq

namespace Label

variable {n : Nat}

def ofFin (k : Fin n) : Label n := ⟨k.val, by omega⟩

def particle (l : Label n) : Fin n :=
  have := l.inRange
  if h : l.value < 0 then ⟨(l.value + n).toNat, by omega⟩ else ⟨l.value.toNat, by omega⟩

/-- The label with a value, if that is in range. -/
def ofInt? (n : Nat) (value : Int) : Option (Label n) :=
  if h : -(n : Int) ≤ value ∧ value < n then some ⟨value, h⟩ else none

end Label

/-- A pair of particles with its geometry: the unit vector from `i` to `j`, the distance, and the slope
of the kernel on either side. -/
structure PairRow (n : Nat) (α : Type) where
  labels : Sides (Label n)
  direction : Vector3 α
  distance : α
  slope : Sides α

namespace PairRow

variable {n : Nat} {α : Type}

def particles (row : PairRow n α) : Sides (Fin n) := row.labels.map Label.particle

end PairRow

namespace Neighbours

variable {α : Type} [Arithmetic α] {n : Nat}

/-- Two particles and the way from the first to the second. -/
structure Separation (n : Nat) (α : Type) where
  i : Fin n
  j : Fin n
  vector : Vector3 α
  distance : α

/-- Pairs closer than this fraction of the support radius are coincident. -/
def coincidentTolerance : α := 1e-12

def separation (positions : Vector (Vector3 α) n) (i j : Fin n) : Separation n α :=
  let vector := positions[j] - positions[i]
  ⟨i, j, vector, vector.norm⟩

/-- Two particles are not farther apart than the support radius. -/
def withinSupport (positions : Vector (Vector3 α) n) (radius : α) (i j : Fin n) : Bool :=
  (positions[j] - positions[i]).squaredNorm ≤ radius * radius

/-- All pairs within the support radius, in the order of their indices. -/
def candidates (positions : Vector (Vector3 α) n) (radius : α) : List (Separation n α) :=
  let particles := List.finRange n
  particles.flatMap fun i =>
    (particles.filter fun j => i < j && withinSupport positions radius i j).map
      fun j => separation positions i j

def least (x y : α) : α := if y < x then y else x

def greatest (x y : α) : α := if x < y then y else x

/-- The diagonal of the smallest box around all positions. -/
def diagonal (positions : List (Vector3 α)) : Vector3 α :=
  match positions with
  | [] => Vector3.zero
  | p :: ps => ps.foldl (Vector3.zipWith greatest) p - ps.foldl (Vector3.zipWith least) p

/-- The positions lie so close together that squared distances between them are finite. -/
def areComparable (positions : List (Vector3 α)) : Bool :=
  Arithmetic.isFinite (diagonal positions).squaredNorm

/-- The two particles of a separation do not coincide. -/
def isApart (radius : α) (s : Separation n α) : Bool := coincidentTolerance * radius < s.distance

/-- The row of a separation, with the slope of the kernel at its distance. -/
def rowOf (s : Separation n α) (slope : α) : PairRow n α :=
  { labels := ⟨Label.ofFin s.i, Label.ofFin s.j⟩
    direction := s.vector.divide s.distance
    distance := s.distance
    slope := Sides.both slope }

/-- The interacting pairs of particles at the given positions. -/
def find (kernel : Kernel α) (positions : Vector (Vector3 α) n) :
    Trail (Notice α) (Fault α) (List (PairRow n α)) := do
  if !kernel.ready then Trail.fail (.kernelNotReadyForPairs kernel.spline.className)
  else if !positions.toList.all Vector3.isFinite then Trail.fail .positionsNotFinite
  else if !areComparable positions.toList then Trail.fail .positionsTooFarApart
  else
    let all := candidates positions kernel.supportRadius
    let apart := all.filter (isApart kernel.supportRadius)
    if apart.length < all.length then Trail.emit (.coincidentSkipped (all.length - apart.length))
    let slopes ← (kernel.slopes .bulk (apart.map (·.distance)) : Except (Fault α) (List α))
    return (apart.zip slopes).map fun (s, slope) => rowOf s slope

/-- The positions in a block: rows of three. -/
def positionsOf? (b : Block α) : Option ((n : Nat) × Vector (Vector3 α) n) :=
  match h : b.shape with
  | [n, 3] =>
    have size : b.entries.size = n * 3 := by rw [b.size_entries, h]; rfl
    some ⟨n, Vector.ofFn fun k : Fin n =>
      have third : k.val * 3 + 2 < b.entries.size := by
        rw [size]
        calc k.val * 3 + 2 < k.val * 3 + 3 := Nat.lt_succ_self _
          _ = (k.val + 1) * 3 := (Nat.succ_mul _ _).symm
          _ ≤ n * 3 := Nat.mul_le_mul_right _ k.isLt
      have second : k.val * 3 + 1 < b.entries.size := Nat.lt_of_succ_lt third
      have first : k.val * 3 < b.entries.size := Nat.lt_of_succ_lt second
      ⟨b.entries[k.val * 3], b.entries[k.val * 3 + 1], b.entries[k.val * 3 + 2]⟩⟩
  | _ => none

def findIn (kernel : Kernel α) (b : Block α) :
    Trail (Notice α) (Fault α) ((n : Nat) × List (PairRow n α)) :=
  if !kernel.ready then Trail.fail (.kernelNotReadyForPairs kernel.spline.className)
  else
    match positionsOf? b with
    | none => Trail.fail (.positionsShape b.shape)
    | some ⟨n, positions⟩ => do return ⟨n, ← find kernel positions⟩

end Neighbours

end ParticleMomentum
