import ParticleMomentum.MachineInteger
import ParticleMomentum.Neighbours

/-!
# Pair tables

Pairs may come from a table whose columns somebody else has filled. Its first column says how many rows
there are; a row that names no particle, or that a shorter column does not reach, cannot be read. Rows
are read from the front, so a table is known by its rows up to the first unreadable one, and by how many
are left from there on. The columns of slopes stay as they are, for they stand in for modified slopes.
-/

namespace ParticleMomentum

structure PairColumns (α : Type) where
  labels : Sides (List Int)
  directions : List (Vector3 α)
  distances : List α
  slopes : Sides (List α)

/-- A column of labels holds machine integers only. -/
def PairColumns.checkLabels {α : Type} (c : PairColumns α) : Except (Fault α) Unit :=
  if (c.labels.i ++ c.labels.j).all MachineInteger.fitsSigned then .ok () else .error .overflow

/-- The rows of a table that can be read, how many are left, and its columns of slopes. -/
structure PairTable (n : Nat) (α : Type) where
  rows : List (PairRow n α)
  left : Nat
  slopes : Sides (List α)

namespace PairTable

variable {n : Nat} {α : Type}

def count (t : PairTable n α) : Nat := t.rows.length + t.left

/-- A table of nothing but readable rows. -/
def ofRows (rows : List (PairRow n α)) : PairTable n α :=
  ⟨rows, 0, ⟨rows.map (·.slope.i), rows.map (·.slope.j)⟩⟩

/-- The items up to the first that is missing. -/
def untilMissing {β : Type} : List (Option β) → List β
  | some b :: rest => b :: untilMissing rest
  | _ => []

/-- The rows that columns make, as far as all columns reach; a row that names no particle is missing. -/
def rowsOf (n : Nat) (c : PairColumns α) : List (Option (PairRow n α)) :=
  let geometry := c.directions.zip (c.distances.zip (c.slopes.i.zip c.slopes.j))
  (c.labels.i.zip (c.labels.j.zip geometry)).map fun (i, j, direction, distance, slopeI, slopeJ) => do
    return ⟨⟨← Label.ofInt? n i, ← Label.ofInt? n j⟩, direction, distance, ⟨slopeI, slopeJ⟩⟩

def ofColumns (n : Nat) (c : PairColumns α) : PairTable n α :=
  let rows := untilMissing (rowsOf n c)
  ⟨rows, c.labels.i.length - rows.length, c.slopes⟩

end PairTable

end ParticleMomentum
