import ParticleMomentum.Proofs.Exact.Kernels
import ParticleMomentum.Proofs.Exact.Space
import ParticleMomentum.Proofs.Neighbours

/-!
# Found pairs in exact arithmetic

A row that a sound kernel finds points from its first particle to its second one, over a distance that is
positive and at most the support radius. The kernel falls there, unless the pair is just at the end of
the support.
-/

namespace ParticleMomentum

variable {n : Nat} {kernel : Kernel ℝ} {positions : Vector (Vector3 ℝ) n}
variable {rows : List (PairRow n ℝ)} {row : PairRow n ℝ}

/-- What a row says about two particles that interact. -/
structure PairRow.Faithful (kernel : Kernel ℝ) (positions : Vector (Vector3 ℝ) n)
    (row : PairRow n ℝ) : Prop where
  ordered : row.particles.i < row.particles.j
  distance_pos : 0 < row.distance
  distance_le : row.distance ≤ kernel.supportRadius
  along : row.direction.dot (positions[row.particles.j] - positions[row.particles.i]) = row.distance
  slope_eq : row.slope.i = row.slope.j
  slope_neg : row.distance < kernel.supportRadius → row.slope.i < 0
  slope_end : row.distance = kernel.supportRadius → row.slope.i = 0

namespace Neighbours

/-- Over exact numbers a sound kernel finds the pairs of any positions. -/
theorem find_ends (sound : kernel.Sound) (positions : Vector (Vector3 ℝ) n) :
    (find kernel positions).Ends := by
  have finite : positions.toList.all Vector3.isFinite = true :=
    List.all_eq_true.mpr fun v _ => rfl
  have comparable : areComparable positions.toList = true := rfl
  rw [find_eq sound.ready finite comparable, sound.slopeFactor_eq]
  exact ⟨_, rfl⟩

/-- Exactly the ways that are not longer than the support radius lie within it. -/
theorem withinSupport_iff {radius : ℝ} (pos : 0 < radius) {i j : Fin n} :
    withinSupport positions radius i j = true ↔ (separation positions i j).distance ≤ radius := by
  rw [withinSupport, decide_eq_true_iff, ← pow_two]
  exact (Real.sqrt_le_left pos.le).symm

theorem distance_pos_of_isApart {radius : ℝ} (pos : 0 < radius) {s : Separation n ℝ}
    (h : isApart radius s = true) : 0 < s.distance := by
  rw [isApart, decide_eq_true_iff, coincidentTolerance] at h
  refine lt_trans (mul_pos ?_ pos) h
  norm_num

/-- The unit vector of a separation makes up its length along the way. -/
theorem direction_dot_vector {s : Separation n ℝ} (pos : 0 < s.distance)
    (length : s.distance = s.vector.norm) : (s.vector.divide s.distance).dot s.vector = s.distance := by
  have square : s.vector.dot s.vector = s.distance * s.distance := by
    rw [length]
    exact s.vector.norm_mul_self.symm
  rw [Vector3.divide_eq, Vector3.smul_dot, square, inv_mul_cancel_left₀ pos.ne']

/-- The rows that a sound kernel finds are faithful. -/
theorem faithful_of_mem_rows (sound : kernel.Sound) (h : (find kernel positions).result = .ok rows)
    (hmem : row ∈ rows) : row.Faithful kernel positions := by
  obtain ⟨factor, hf, -⟩ := rows_of_find h
  obtain ⟨i, j, ordered, within, apart, rfl⟩ := (mem_rows_iff h hf).mp hmem
  have pos := distance_pos_of_isApart sound.radius_pos apart
  have sides (slope : ℝ) : (rowOf (separation positions i j) slope).particles = ⟨i, j⟩ := by
    simp [rowOf, PairRow.particles, Sides.map, separation]
  refine ⟨?_, pos, (withinSupport_iff sound.radius_pos).mp within, ?_, rfl, ?_, ?_⟩
  · rw [sides]
    exact ordered
  · simp only [sides]
    exact direction_dot_vector pos rfl
  · exact fun inside => sound.slope_neg hf pos inside
  · exact fun atEnd => sound.slope_of_le (ge_of_eq atEnd)

end Neighbours

end ParticleMomentum
