import Mathlib.Data.List.Basic
import ParticleMomentum.CubicLattice
import ParticleMomentum.Proofs.Particles

/-!
# The grid of a lattice and its draws

The particles of a lattice stand on the cells of a cubic grid, each cell once, in row-major order. Their
positions use up the first draws, three in a row for each particle; one draw for each density comes next,
and then three for each velocity.
-/

namespace ParticleMomentum.CubicLattice

variable {α : Type} {l : CubicLattice α}

/-! ## Cells -/

/-- The cells of a cubic grid, the last coordinate running fastest. -/
def grid (edge : Nat) : List (Vector3 Nat) :=
  (List.range edge).flatMap fun a => (List.range edge).flatMap fun b =>
    (List.range edge).map fun c => ⟨a, b, c⟩

def number (l : CubicLattice α) (c : Vector3 Nat) : Nat := (c.x * l.edge + c.y) * l.edge + c.z

def OnGrid (l : CubicLattice α) (c : Vector3 Nat) : Prop :=
  c.x < l.edge ∧ c.y < l.edge ∧ c.z < l.edge

theorem number_cell (l : CubicLattice α) (k : Nat) : l.number (l.cell k) = k := by
  have inner : k / l.edge / l.edge * l.edge + k / l.edge % l.edge = k / l.edge := Nat.div_add_mod' _ _
  have outer : k / l.edge * l.edge + k % l.edge = k := Nat.div_add_mod' _ _
  rw [number, cell, ← Nat.div_div_eq_div_mul, inner, outer]

theorem cell_number {c : Vector3 Nat} (on : l.OnGrid c) : l.cell (l.number c) = c := by
  obtain ⟨-, hy, hz⟩ := on
  have split {a b : Nat} (h : b < l.edge) :
      (a * l.edge + b) / l.edge = a ∧ (a * l.edge + b) % l.edge = b :=
    ⟨by rw [Nat.add_comm, Nat.add_mul_div_right _ _ (by omega), Nat.div_eq_of_lt h, Nat.zero_add],
      by rw [Nat.mul_add_mod_self_right, Nat.mod_eq_of_lt h]⟩
  rw [number, cell, ← Nat.div_div_eq_div_mul, (split hz).1, (split hz).2, (split hy).1, (split hy).2]

theorem number_lt {c : Vector3 Nat} (on : l.OnGrid c) : l.number c < l.size := by
  obtain ⟨hx, hy, hz⟩ := on
  have row : c.x * l.edge + c.y < l.edge * l.edge :=
    calc c.x * l.edge + c.y < (c.x + 1) * l.edge := by rw [Nat.succ_mul]; omega
      _ ≤ l.edge * l.edge := Nat.mul_le_mul_right _ hx
  calc l.number c < (c.x * l.edge + c.y + 1) * l.edge := by rw [number, Nat.succ_mul]; omega
    _ ≤ l.edge * l.edge * l.edge := Nat.mul_le_mul_right _ row

theorem onGrid_cell {k : Nat} (h : k < l.size) : l.OnGrid (l.cell k) := by
  have pos : 0 < l.edge := by
    rcases Nat.eq_zero_or_pos l.edge with zero | pos
    · rw [size, zero] at h
      omega
    · exact pos
  refine ⟨?_, Nat.mod_lt _ pos, Nat.mod_lt _ pos⟩
  rw [size, Nat.mul_assoc] at h
  exact Nat.div_lt_of_lt_mul (by rwa [Nat.mul_comm])

theorem cell_injective (l : CubicLattice α) : Function.Injective l.cell := by
  intro j k same
  rw [← l.number_cell j, same, l.number_cell]

/-! ## Order -/

/-- The numbers below a product, row by row. -/
theorem range_mul (m n : Nat) :
    List.range (m * n) = (List.range m).flatMap fun a => (List.range n).map fun b => a * n + b := by
  induction m with
  | zero =>
      rw [Nat.zero_mul]
      rfl
  | succ m ih =>
      rw [Nat.succ_mul, List.range_add, ih, List.range_succ, List.flatMap_append,
        List.flatMap_singleton]

/-- The particles stand on the cells in the order of the grid. -/
theorem map_cell (l : CubicLattice α) : (List.range l.size).map l.cell = grid l.edge := by
  rw [size, range_mul, range_mul, List.flatMap_assoc, List.map_flatMap, grid]
  refine List.flatMap_congr fun a ha => ?_
  rw [List.flatMap_map, List.map_flatMap]
  refine List.flatMap_congr fun b hb => ?_
  rw [List.map_map]
  refine List.map_congr_left fun c hc => ?_
  exact cell_number (c := ⟨a, b, c⟩) ⟨List.mem_range.mp ha, List.mem_range.mp hb, List.mem_range.mp hc⟩

/-! ## Draws -/

/-- So many draws in a row. -/
def drawn (draw : Draws α) (start count : Nat) : List α :=
  (List.range count).map fun i => draw (start + i)

/-- Draws in a row by threes. -/
theorem drawn_threes (draw : Draws α) (start n : Nat) :
    drawn draw start (3 * n) = (List.range n).flatMap fun k =>
      [draw (start + 3 * k), draw (start + 3 * k + 1), draw (start + 3 * k + 2)] := by
  rw [drawn, Nat.mul_comm, range_mul, List.map_flatMap]
  refine List.flatMap_congr fun k _ => ?_
  rw [Nat.mul_comm k 3]
  rfl

/-- Lists that are made of pieces of the same lengths are combined piece by piece. -/
theorem zipWith_flatMap {β γ δ ι : Type} (f : β → γ → δ) {g : ι → List β} {h : ι → List γ}
    (same : ∀ k, (g k).length = (h k).length) (l : List ι) :
    List.zipWith f (l.flatMap g) (l.flatMap h) = l.flatMap fun k => List.zipWith f (g k) (h k) := by
  induction l with
  | nil => rfl
  | cons k l ih =>
      rw [List.flatMap_cons, List.flatMap_cons, List.flatMap_cons, List.zipWith_append (same k), ih]

variable [Arithmetic α]

theorem toList_particles (l : CubicLattice α) (draw : Draws α) :
    (l.ensemble draw).particles.toList = (List.range l.size).map (l.particle draw) := by
  rw [ensemble, Vector.toList_ofFn]
  refine List.ext_getElem (by simp) fun k _ _ => ?_
  rw [List.getElem_ofFn, List.getElem_map, List.getElem_range]

/-- The positions use up the first draws, along the axes of one particle after the other. -/
theorem positions_use_draws (l : CubicLattice α) (draw : Draws α) :
    ((l.ensemble draw).particles.toList.flatMap fun p => p.position.toList) =
      List.zipWith (fun (place : Nat) d => Arithmetic.ofInt place * l.spacing + spread d * l.jitter)
        ((grid l.edge).flatMap Vector3.toList) (drawn draw 0 (3 * l.size)) := by
  rw [toList_particles, ← map_cell, List.flatMap_map, List.flatMap_map, drawn_threes]
  simp only [Nat.zero_add]
  have same (k : Nat) : (l.cell k).toList.length =
      [draw (3 * k), draw (3 * k + 1), draw (3 * k + 2)].length := rfl
  rw [zipWith_flatMap _ same]
  rfl

/-- The densities use up one draw each, after those of the positions. -/
theorem densities_use_draws (l : CubicLattice α) (draw : Draws α) :
    ((l.ensemble draw).particles.toList.map fun p => p.density) =
      (drawn draw (3 * l.size) l.size).map fun d =>
        l.density * (1.0 + l.densityPerturbation * spread d) := by
  rw [toList_particles, List.map_map, drawn, List.map_map]
  rfl

/-- The velocities use up the draws after those of the densities. -/
theorem velocities_use_draws (l : CubicLattice α) (draw : Draws α) :
    ((l.ensemble draw).particles.toList.flatMap fun p => p.velocity.toList) =
      (drawn draw (4 * l.size) (3 * l.size)).map (scaled l.velocityScale) := by
  rw [toList_particles, List.flatMap_map, drawn_threes, List.map_flatMap]
  rfl

end ParticleMomentum.CubicLattice
