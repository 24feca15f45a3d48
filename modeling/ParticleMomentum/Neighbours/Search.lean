import ParticleMomentum.Neighbours.Table

/-!
# Searching by columns

A search tree hands out the pairs within the support radius in an order of its own. They are put in
order, and their geometry is computed column by column; a mask then keeps the rows of those pairs that do
not coincide.
-/

namespace ParticleMomentum.Neighbours

variable {α : Type} [Arithmetic α] {n : Nat}

/-- The order of pairs: by the first particle, then by the second. -/
def inOrder (p q : Fin n × Fin n) : Bool := p.1 < q.1 || (p.1 == q.1 && p.2 ≤ q.2)

/-- The entries of a column that a mask keeps. -/
def masked {β : Type} (keep : List Bool) (column : List β) : List β :=
  ((keep.zip column).filter (·.1)).map (·.2)

/-- The columns of pairs, from those of their particles, vectors and distances. -/
def columnsOf (kernel : Kernel α) (first second : List (Fin n)) (vectors : List (Vector3 α))
    (distances : List α) : Except (Fault α) (PairColumns α) := do
  let slopes ← kernel.slopes .bulk distances
  return { labels := ⟨first.map fun i => (i.val : Int), second.map fun j => (j.val : Int)⟩
           directions := List.zipWith Vector3.divide vectors distances
           distances
           slopes := Sides.both slopes }

/-- The columns of the interacting pairs, given those that a search tree has handed out. -/
def search (query : List (Fin n × Fin n)) (kernel : Kernel α) (positions : Vector (Vector3 α) n) :
    Trail (Notice α) (Fault α) (PairColumns α) := do
  if !kernel.ready then Trail.fail (.kernelNotReadyForPairs kernel.spline.className)
  else
    let pairs := query.mergeSort inOrder
    let first := pairs.map (·.1)
    let second := pairs.map (·.2)
    let vectors := List.zipWith (fun i j => positions[j] - positions[i]) first second
    let distances := vectors.map Vector3.norm
    let keep := distances.map fun d => decide (coincidentTolerance * kernel.supportRadius < d)
    if !keep.all id then Trail.emit (.coincidentSkipped (keep.count false))
    columnsOf kernel (masked keep first) (masked keep second) (masked keep vectors)
      (masked keep distances)

end ParticleMomentum.Neighbours
