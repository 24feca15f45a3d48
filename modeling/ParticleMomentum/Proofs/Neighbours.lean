import ParticleMomentum.Neighbours
import ParticleMomentum.Proofs.Trail

/-!
# The pairs that are found

Each row of a search stands for two particles that are not farther apart than the support radius and do
not coincide, the one with the smaller index first. Its slopes are that of the kernel at their distance.
-/

namespace ParticleMomentum

@[simp] theorem Label.particle_ofFin {n : Nat} (k : Fin n) : (Label.ofFin k).particle = k := by
  have notNegative : ¬ (Label.ofFin k).value < 0 := by
    change ¬ ((k.val : Int) < 0)
    omega
  rw [Label.particle, dif_neg notNegative]
  exact Fin.ext (Int.toNat_natCast k.val)

namespace Neighbours

variable {α : Type} [Arithmetic α] {n : Nat} {kernel : Kernel α}
variable {positions : Vector (Vector3 α) n} {rows : List (PairRow n α)}

theorem mem_candidates_iff {radius : α} {s : Separation n α} :
    s ∈ candidates positions radius ↔
      ∃ i j, i < j ∧ withinSupport positions radius i j = true ∧ s = separation positions i j := by
  simp only [candidates, List.mem_flatMap, List.mem_map, List.mem_filter, List.mem_finRange,
    true_and, Bool.and_eq_true, decide_eq_true_iff]
  constructor
  · rintro ⟨i, j, ⟨ordered, within⟩, rfl⟩
    exact ⟨i, j, ordered, within, rfl⟩
  · rintro ⟨i, j, ordered, within, rfl⟩
    exact ⟨i, j, ⟨ordered, within⟩, rfl⟩

/-- The warning that so many pairs coincide, unless there are none. -/
def warning (dropped : Nat) : List (Notice α) :=
  if dropped = 0 then [] else [.coincidentSkipped dropped]

/-- The slopes at some distances, each beside its distance. -/
theorem zip_slopes (kernel : Kernel α) (separations : List (Separation n α)) :
    (do
      let slopes ← (kernel.slopes .bulk (separations.map (·.distance)) : Except (Fault α) (List α))
      return (separations.zip slopes).map fun pair => rowOf pair.1 pair.2 :
        Trail (Notice α) (Fault α) (List (PairRow n α))) =
      ⟨[], kernel.slopeFactor.map fun factor =>
        separations.map fun s => rowOf s (kernel.slopeWith factor .bulk s.distance)⟩ := by
  rw [Kernel.slopes]
  cases kernel.slopeFactor with
  | error e => rfl
  | ok factor =>
      change (⟨[], .ok _⟩ : Trail _ _ _) = ⟨[], .ok _⟩
      rw [List.map_map, ← List.map_prod_left_eq_zip, List.map_map]
      rfl

/-- A search warns of the candidates that coincide, and finds the others, each with its slope. -/
theorem find_eq (ready : kernel.ready = true) (finite : positions.toList.all Vector3.isFinite = true)
    (comparable : areComparable positions.toList = true) :
    let all := candidates positions kernel.supportRadius
    let apart := all.filter (isApart kernel.supportRadius)
    find kernel positions =
      ⟨warning (all.length - apart.length),
        kernel.slopeFactor.map fun factor =>
          apart.map fun s => rowOf s (kernel.slopeWith factor .bulk s.distance)⟩ := by
  intro all apart
  have rest := zip_slopes kernel apart
  rw [find, ready, finite, comparable]
  simp only [Bool.not_true, Bool.false_eq_true, if_false, warning]
  split
  · next fewer =>
    rw [if_neg (Nat.sub_ne_zero_of_lt fewer)]
    refine Eq.trans (congrArg (fun t => Trail.emit _ >>= fun _ => t) rest) ?_
    rfl
  · next kept =>
    rw [if_pos (Nat.sub_eq_zero_of_le (Nat.not_lt.mp kept))]
    exact rest

/-- Only finite positions that can be compared are searched, for a kernel that is ready. -/
theorem searchable_of_find (h : (find kernel positions).result = .ok rows) :
    kernel.ready = true ∧ positions.toList.all Vector3.isFinite = true ∧
      areComparable positions.toList = true := by
  rw [find] at h
  split at h
  · cases h
  · next ready =>
    split at h
    · cases h
    · next finite =>
      split at h
      · cases h
      · next comparable => exact ⟨by simpa using ready, by simpa using finite, by simpa using comparable⟩

/-- The pairs that a search finds are the candidates that are apart, each with its slope. -/
theorem rows_of_find (h : (find kernel positions).result = .ok rows) :
    ∃ factor, kernel.slopeFactor = .ok factor ∧
      rows = ((candidates positions kernel.supportRadius).filter
        (isApart kernel.supportRadius)).map fun s =>
          rowOf s (kernel.slopeWith factor .bulk s.distance) := by
  obtain ⟨ready, finite, comparable⟩ := searchable_of_find h
  rw [find_eq ready finite comparable] at h
  cases hf : kernel.slopeFactor with
  | error e =>
      rw [hf] at h
      cases h
  | ok factor =>
      rw [hf] at h
      cases h
      exact ⟨factor, rfl, rfl⟩

/-- The rows that are found are those of two particles within the support radius and apart, the first one
before the second. -/
theorem mem_rows_iff (h : (find kernel positions).result = .ok rows) {factor : α}
    (hf : kernel.slopeFactor = .ok factor) {row : PairRow n α} :
    row ∈ rows ↔
      ∃ i j, i < j ∧ withinSupport positions kernel.supportRadius i j = true ∧
        isApart kernel.supportRadius (separation positions i j) = true ∧
        row = rowOf (separation positions i j)
          (kernel.slopeWith factor .bulk (separation positions i j).distance) := by
  obtain ⟨factor', hf', rfl⟩ := rows_of_find h
  cases hf.symm.trans hf'
  simp only [List.mem_map, List.mem_filter, mem_candidates_iff]
  constructor
  · rintro ⟨_, ⟨⟨i, j, ordered, within, rfl⟩, apart⟩, rfl⟩
    exact ⟨i, j, ordered, within, apart, rfl⟩
  · rintro ⟨i, j, ordered, within, apart, rfl⟩
    exact ⟨_, ⟨⟨i, j, ordered, within, rfl⟩, apart⟩, rfl⟩

/-- The slope of the kernel is the same on both sides of the pairs that are found. -/
theorem slope_eq_of_mem_rows (h : (find kernel positions).result = .ok rows) {row : PairRow n α}
    (hmem : row ∈ rows) : row.slope.i = row.slope.j := by
  obtain ⟨factor, hf, -⟩ := rows_of_find h
  obtain ⟨i, j, -, -, -, rfl⟩ := (mem_rows_iff h hf).mp hmem
  rfl

end Neighbours

end ParticleMomentum
