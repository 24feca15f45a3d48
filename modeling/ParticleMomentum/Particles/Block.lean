/-!
# Blocks of data

A block is an array with a shape: its entries stand in row-major order, as many as the sizes multiply
up to. Nested lists make a block if all lists at one depth have the same shape, and if they are not too
deep.
-/

namespace ParticleMomentum

/-- An index below the length of a vector needs no check. -/
instance vectorGetElem {β : Type} {n : Nat} : GetElem (Vector β n) (Fin n) β fun _ _ => True where
  getElem v k _ := v.get k

/-- Data as written: an entry, or a list of data. -/
inductive Nested (β : Type) where
  | entry (b : β)
  | list (items : List (Nested β))

-- the one of a product of sizes is the numeral
attribute [local instance (high)] One.ofOfNat1

/-- An array with a shape, its entries in row-major order. -/
structure Block (β : Type) where
  shape : List Nat
  entries : Array β
  size_entries : entries.size = shape.prod

namespace Block

variable {β γ : Type}

def single (b : β) : Block β := ⟨[], #[b], rfl⟩

def map (f : β → γ) (b : Block β) : Block γ :=
  ⟨b.shape, b.entries.map f, by rw [Array.size_map, b.size_entries]⟩

/-- Puts further blocks of shape `s` behind `m` of them. -/
def stackOn (s : List Nat) (m : Nat) (entries : Array β) (h : entries.size = (m :: s).prod) :
    List (Block β) → Option (Block β)
  | [] => some ⟨m :: s, entries, h⟩
  | b :: bs =>
    if hb : b.shape = s then
      stackOn s (m + 1) (entries ++ b.entries)
        (by simp [h, b.size_entries, hb, Nat.succ_mul]) bs
    else none

def stack? : List (Block β) → Option (Block β)
  | [] => some ⟨[0], #[], rfl⟩
  | b :: bs => stackOn b.shape 0 #[] (by simp) (b :: bs)

/-- Spreads a block over `n` rows of a given shape: one entry goes everywhere, one row to every row, and
`n` rows to one each. -/
def spread? (b : Block β) (n : Nat) (row : List Nat) : Option (Fin n → Fin row.prod → β) :=
  if h : b.shape = [] then
    have single : 0 < b.entries.size := by simp [b.size_entries, h]
    some fun _ _ => b.entries[0]
  else if h : b.shape = row then
    have size : b.entries.size = row.prod := by rw [b.size_entries, h]
    some fun _ c => b.entries[c.val]
  else if h : b.shape = n :: row then
    some fun k c =>
      have inside : k.val * row.prod + c.val < b.entries.size := by
        rw [b.size_entries, h, List.prod_cons]
        calc k.val * row.prod + c.val < k.val * row.prod + row.prod := Nat.add_lt_add_left c.isLt _
          _ = (k.val + 1) * row.prod := (Nat.succ_mul _ _).symm
          _ ≤ n * row.prod := Nat.mul_le_mul_right _ k.isLt
      b.entries[k.val * row.prod + c.val]
  else none

/-- The place of coordinates in a block of the given sizes. A size of one serves all coordinates. -/
def placeOf (sizes coordinates : List Nat) : Nat :=
  (sizes.zip coordinates).foldl (fun place (size, c) => place * size + (if size = 1 then 0 else c)) 0

/-- Stretches a block to a shape: dimensions that are missing in front or have size one are repeated. -/
def stretch? (b : Block β) (shape : List Nat) (default : β) : Option (List Nat → β) :=
  if shape.length < b.shape.length then none
  else
    let sizes := List.replicate (shape.length - b.shape.length) 1 ++ b.shape
    if (sizes.zip shape).all fun (size, wanted) => size = wanted || size = 1 then
      some fun coordinates => b.entries.getD (placeOf sizes coordinates) default
    else none

end Block

namespace Nested

variable {β : Type}

mutual

/-- The number of lists around the innermost entry or list. -/
def depth : Nested β → Nat
  | entry _ => 0
  | list items => depths items + 1

/-- The depth of the deepest item of a list. -/
def depths : List (Nested β) → Nat
  | [] => 0
  | x :: xs => max (depth x) (depths xs)

end

mutual

/-- The block that nested lists of any depth make. -/
def stacked? : Nested β → Option (Block β)
  | entry b => some (Block.single b)
  | list items => (stackedItems? items).bind Block.stack?

/-- The blocks of the items of a list. -/
def stackedItems? : List (Nested β) → Option (List (Block β))
  | [] => some []
  | x :: xs => (stacked? x).bind fun b => (stackedItems? xs).map (b :: ·)

end

/-- The most dimensions that a block may have. -/
def mostDimensions : Nat := 64

/-- The block that nested lists make, unless they are too deep. -/
def toBlock? (x : Nested β) : Option (Block β) :=
  if x.depth ≤ mostDimensions then x.stacked? else none

end Nested

end ParticleMomentum
