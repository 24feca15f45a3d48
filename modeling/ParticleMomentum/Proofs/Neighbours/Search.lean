import ParticleMomentum.Neighbours.Search
import ParticleMomentum.Proofs.Exact.Pairs
import ParticleMomentum.Proofs.Kernels.Readiness

/-!
# What a search by columns lists

Whatever the order in which a search tree hands out the pairs within the support radius, the columns list
those of them that do not coincide, each once, in the order of their indices, and every row holds what
belongs to its pair. So a search by columns finds the same rows as a search pair by pair.
-/

namespace ParticleMomentum

def PairColumns.ofRows {n : Nat} {α : Type} (rows : List (PairRow n α)) : PairColumns α where
  labels := ⟨rows.map (·.labels.i.value), rows.map (·.labels.j.value)⟩
  directions := rows.map (·.direction)
  distances := rows.map (·.distance)
  slopes := ⟨rows.map (·.slope.i), rows.map (·.slope.j)⟩

def PairColumns.HasLength {α : Type} (c : PairColumns α) (k : Nat) : Prop :=
  c.labels.i.length = k ∧ c.labels.j.length = k ∧ c.directions.length = k ∧ c.distances.length = k ∧
    c.slopes.i.length = k ∧ c.slopes.j.length = k

theorem PairColumns.hasLength_ofRows {n : Nat} {α : Type} (rows : List (PairRow n α)) :
    (ofRows rows).HasLength rows.length := by
  simp [HasLength, ofRows]

def PairRow.pair {n : Nat} {α : Type} (row : PairRow n α) : Fin n × Fin n :=
  (row.particles.i, row.particles.j)

namespace Neighbours

variable {α : Type} [Arithmetic α] {n : Nat} {kernel : Kernel α}
variable {positions : Vector (Vector3 α) n} {query : List (Fin n × Fin n)} {radius : α}

/-- What a search tree hands out: each pair within the radius once, the smaller index first. -/
structure IsQuery (positions : Vector (Vector3 α) n) (radius : α) (query : List (Fin n × Fin n)) :
    Prop where
  nodup : query.Nodup
  mem_iff : ∀ i j, (i, j) ∈ query ↔ i < j ∧ withinSupport positions radius i j = true

/-! ## The order of the pairs -/

/-- A pair comes before another one. -/
abbrev Precedes : Fin n × Fin n → Fin n × Fin n → Prop := Prod.Lex (· < ·) (· < ·)

/-- The indices of the pairs within the radius, in order. -/
def indices (positions : Vector (Vector3 α) n) (radius : α) : List (Fin n × Fin n) :=
  (List.finRange n).flatMap fun i =>
    ((List.finRange n).filter fun j => i < j && withinSupport positions radius i j).map fun j => (i, j)

theorem candidates_eq_map : candidates positions radius =
    (indices positions radius).map fun p => separation positions p.1 p.2 := by
  rw [candidates, indices, List.map_flatMap]
  simp only [List.map_map]
  rfl

theorem mem_indices_iff {i j : Fin n} :
    (i, j) ∈ indices positions radius ↔ i < j ∧ withinSupport positions radius i j = true := by
  simp [indices]

theorem indices_pairwise : (indices positions radius).Pairwise Precedes := by
  refine List.pairwise_flatMap.mpr ⟨fun i _ => ?_, ?_⟩
  · refine List.pairwise_map.mpr (List.Pairwise.filter _ ?_)
    exact (List.pairwise_lt_finRange n).imp fun h => Prod.Lex.right i h
  · refine (List.pairwise_lt_finRange n).imp fun {i i'} h p hp q hq => ?_
    obtain ⟨j, -, rfl⟩ := List.mem_map.mp hp
    obtain ⟨j', -, rfl⟩ := List.mem_map.mp hq
    exact Prod.Lex.left j j' h

theorem inOrder_iff {p q : Fin n × Fin n} :
    inOrder p q = true ↔ p.1 < q.1 ∨ p.1 = q.1 ∧ p.2 ≤ q.2 := by
  simp [inOrder]

theorem inOrder_of_precedes {p q : Fin n × Fin n} (h : Precedes p q) : inOrder p q = true := by
  rcases Prod.lex_def.mp h with first | ⟨same, second⟩
  · exact inOrder_iff.mpr (.inl first)
  · exact inOrder_iff.mpr (.inr ⟨same, second.le⟩)

theorem inOrder_antisymm {p q : Fin n × Fin n} (h : inOrder p q = true) (h' : inOrder q p = true) :
    p = q := by
  rw [inOrder_iff] at h h'
  refine Prod.ext ?_ ?_ <;> omega

theorem pairwise_mergeSort (pairs : List (Fin n × Fin n)) :
    (pairs.mergeSort inOrder).Pairwise fun p q => inOrder p q = true := by
  refine List.pairwise_mergeSort (fun p q r hpq hqr => ?_) (fun p q => ?_) pairs
  · rw [inOrder_iff] at hpq hqr ⊢
    omega
  · rw [Bool.or_eq_true, inOrder_iff, inOrder_iff]
    omega

theorem indices_nodup : (indices positions radius).Nodup :=
  indices_pairwise.imp fun {p q} h same => by
    subst same
    rcases Prod.lex_def.mp h with first | ⟨-, second⟩
    · exact lt_irrefl _ first
    · exact lt_irrefl _ second

/-- Sorting brings the pairs that were handed out into their order, whichever way they came. -/
theorem mergeSort_query (h : IsQuery positions radius query) :
    query.mergeSort inOrder = indices positions radius := by
  have samePairs : query.Perm (indices positions radius) := by
    refine (List.perm_ext_iff_of_nodup h.nodup indices_nodup).mpr fun ⟨i, j⟩ => ?_
    rw [h.mem_iff, mem_indices_iff]
  refine List.Perm.eq_of_pairwise (fun p q _ _ => inOrder_antisymm) (pairwise_mergeSort query)
    (indices_pairwise.imp inOrder_of_precedes) ?_
  exact (List.mergeSort_perm query inOrder).trans samePairs

/-! ## The columns -/

/-- A mask that was computed from the items of a column keeps what passes the test. -/
theorem masked_map {β γ : Type} (keep : β → Bool) (f : β → γ) (items : List β) :
    masked (items.map keep) (items.map f) = (items.filter keep).map f := by
  rw [masked, List.zip_map', List.filter_map, List.map_map]
  rfl

theorem count_false_map {β : Type} (keep : β → Bool) (items : List β) :
    (items.map keep).count false = items.countP fun b => !keep b := by
  rw [List.count, List.countP_map]
  exact List.countP_congr fun b _ => by cases h : keep b <;> simp [h]

/-- A mask drops something just if there is an item that it does not keep. -/
theorem not_all_map_iff {β : Type} (keep : β → Bool) (items : List β) :
    (!(items.map keep).all id) = true ↔ items.countP (fun b => !keep b) ≠ 0 := by
  simp [List.countP_eq_zero]

/-- The row of a pair, given the factor of all slopes. -/
def rowWith (kernel : Kernel α) (positions : Vector (Vector3 α) n) (factor : α) (p : Fin n × Fin n) :
    PairRow n α :=
  let s := separation positions p.1 p.2
  rowOf s (kernel.slopeWith factor .bulk s.distance)

/-- Columns that are computed one by one make the rows of their pairs. -/
theorem columnsOf_map (pairs : List (Fin n × Fin n)) :
    columnsOf kernel (pairs.map (·.1)) (pairs.map (·.2))
        (pairs.map fun p => (separation positions p.1 p.2).vector)
        (pairs.map fun p => (separation positions p.1 p.2).distance) =
      kernel.slopeFactor.map fun factor => .ofRows (pairs.map (rowWith kernel positions factor)) := by
  rw [columnsOf, Kernel.slopes]
  cases kernel.slopeFactor with
  | error e => rfl
  | ok factor =>
      change Except.ok _ = Except.ok _
      simp only [PairColumns.ofRows, List.map_map, List.zipWith_map, List.zipWith_self]
      rfl

/-- The pairs that do not coincide. -/
def apartIndices (positions : Vector (Vector3 α) n) (radius : α) : List (Fin n × Fin n) :=
  (indices positions radius).filter fun p => isApart radius (separation positions p.1 p.2)

/-- A search warns of the pairs that it drops, and lists the rows of the others. -/
theorem search_eq (ready : kernel.ready = true) (h : IsQuery positions kernel.supportRadius query) :
    search query kernel positions =
      ⟨warning (query.countP fun p => !isApart kernel.supportRadius (separation positions p.1 p.2)),
        kernel.slopeFactor.map fun factor =>
          .ofRows ((apartIndices positions kernel.supportRadius).map (rowWith kernel positions factor))⟩ := by
  have sorted := mergeSort_query h
  rw [← (List.mergeSort_perm query inOrder).countP_eq, sorted]
  -- every column is computed from the pairs in their order
  have vectors : List.zipWith (fun i j => positions[j] - positions[i])
      ((indices positions kernel.supportRadius).map (·.1))
      ((indices positions kernel.supportRadius).map (·.2)) =
      (indices positions kernel.supportRadius).map fun p => (separation positions p.1 p.2).vector := by
    rw [List.zipWith_map, List.zipWith_self]
    rfl
  have distances : ((indices positions kernel.supportRadius).map fun p =>
      (separation positions p.1 p.2).vector).map Vector3.norm =
      (indices positions kernel.supportRadius).map fun p => (separation positions p.1 p.2).distance :=
    List.map_map
  have mask : ((indices positions kernel.supportRadius).map fun p =>
      (separation positions p.1 p.2).distance).map (fun d =>
        decide (coincidentTolerance * kernel.supportRadius < d)) =
      (indices positions kernel.supportRadius).map fun p =>
        isApart kernel.supportRadius (separation positions p.1 p.2) :=
    List.map_map
  rw [search, ready, apartIndices, ← columnsOf_map]
  simp only [Bool.not_true, Bool.false_eq_true, if_false, sorted, vectors, distances, mask,
    masked_map, count_false_map, warning]
  split
  · next dropped =>
    rw [if_neg (not_all_map_iff _ _ |>.mp dropped)]
    rfl
  · next kept =>
    rw [if_pos (not_not.mp (mt (not_all_map_iff _ _).mpr kept))]
    rfl

theorem apart_candidates : (candidates positions radius).filter (isApart radius) =
    (apartIndices positions radius).map fun p => separation positions p.1 p.2 := by
  rw [candidates_eq_map, List.filter_map]
  rfl

theorem length_sub_filter {β : Type} (keep : β → Bool) (items : List β) :
    items.length - (items.filter keep).length = items.countP fun b => !keep b := by
  have total := items.length_eq_countP_add_countP keep
  have dropped : items.countP (fun b => decide ¬ keep b = true) = items.countP fun b => !keep b :=
    List.countP_congr fun b _ => by simp
  rw [← List.countP_eq_length_filter]
  omega

/-- A search by columns does what a search pair by pair does, for positions that this one takes. -/
theorem search_eq_find (ready : kernel.ready = true)
    (finite : positions.toList.all Vector3.isFinite = true)
    (comparable : areComparable positions.toList = true)
    (h : IsQuery positions kernel.supportRadius query) :
    search query kernel positions =
      ⟨(find kernel positions).items, (find kernel positions).result.map .ofRows⟩ := by
  rw [search_eq ready h, find_eq ready finite comparable, length_sub_filter, apart_candidates,
    candidates_eq_map, List.countP_map, ← (List.mergeSort_perm query inOrder).countP_eq,
    mergeSort_query h]
  cases kernel.slopeFactor with
  | error e => rfl
  | ok factor =>
      simp only [Except.map, List.map_map]
      rfl

/-! ## What is listed -/

/-- The rows are those of the interacting pairs, each pair once and in order; each holds the geometry of
its pair, and all of them hold the slopes of the kernel at their distances. -/
structure Lists (kernel : Kernel α) (positions : Vector (Vector3 α) n) (rows : List (PairRow n α)) :
    Prop where
  ordered : rows.Pairwise fun row row' => Precedes row.pair row'.pair
  mem_iff : ∀ i j, (∃ row ∈ rows, row.pair = (i, j)) ↔
    i < j ∧ withinSupport positions kernel.supportRadius i j = true ∧
      isApart kernel.supportRadius (separation positions i j) = true
  aligned : ∀ row ∈ rows, ∃ slope,
    row = rowOf (separation positions row.pair.1 row.pair.2) slope
  slopes : kernel.slopes .bulk (rows.map (·.distance)) = .ok (rows.map (·.slope.i))

@[simp] theorem pair_rowWith (factor : α) (p : Fin n × Fin n) :
    (rowWith kernel positions factor p).pair = p := by
  simp [PairRow.pair, PairRow.particles, Sides.map, rowWith, rowOf, separation]

theorem mem_apartIndices_iff {i j : Fin n} :
    (i, j) ∈ apartIndices positions radius ↔
      i < j ∧ withinSupport positions radius i j = true ∧
        isApart radius (separation positions i j) = true := by
  rw [apartIndices, List.mem_filter, mem_indices_iff, and_assoc]

theorem lists_rowWith {factor : α} (hf : kernel.slopeFactor = .ok factor) :
    Lists kernel positions
      ((apartIndices positions kernel.supportRadius).map (rowWith kernel positions factor)) where
  ordered := by
    refine List.pairwise_map.mpr ((indices_pairwise.filter _).imp fun {p q} h => ?_)
    rw [pair_rowWith, pair_rowWith]
    exact h
  mem_iff i j := by
    rw [← mem_apartIndices_iff]
    constructor
    · rintro ⟨row, hrow, same⟩
      obtain ⟨p, hp, rfl⟩ := List.mem_map.mp hrow
      rw [pair_rowWith] at same
      exact same ▸ hp
    · exact fun hp => ⟨_, List.mem_map_of_mem hp, pair_rowWith _ _⟩
  aligned := by
    intro row hrow
    obtain ⟨p, -, rfl⟩ := List.mem_map.mp hrow
    rw [pair_rowWith]
    exact ⟨_, rfl⟩
  slopes := by
    rw [Kernel.slopes, hf, List.map_map, List.map_map]
    change Except.ok _ = Except.ok _
    rw [List.map_map]
    rfl

theorem slopeFactor_of_isZero (h : Arithmetic.isZero kernel.smoothingLength = true) :
    kernel.slopeFactor = .error .zeroDivisor := by
  rw [Kernel.slopeFactor, Arithmetic.quotient, if_pos h]

theorem slopeFactor_of_not_isZero (h : Arithmetic.isZero kernel.smoothingLength = false) :
    ∃ factor, kernel.slopeFactor = .ok factor := by
  rw [Kernel.slopeFactor, Arithmetic.quotient, h]
  exact ⟨_, rfl⟩

/-- A search with a kernel that is ready fails just if the smoothing length is zero. Otherwise it lists
the interacting pairs and warns of those that it drops. -/
theorem search_lists (ready : kernel.ready = true) (h : IsQuery positions kernel.supportRadius query) :
    (Arithmetic.isZero kernel.smoothingLength = true →
      (search query kernel positions).result = .error .zeroDivisor) ∧
    (Arithmetic.isZero kernel.smoothingLength = false → ∃ rows,
      search query kernel positions =
        ⟨warning (query.countP fun p => !isApart kernel.supportRadius (separation positions p.1 p.2)),
          .ok (.ofRows rows)⟩ ∧
      (PairColumns.ofRows rows).HasLength rows.length ∧ Lists kernel positions rows) := by
  rw [search_eq ready h]
  constructor
  · intro zero
    rw [slopeFactor_of_isZero zero]
    rfl
  · intro nonzero
    obtain ⟨factor, hf⟩ := slopeFactor_of_not_isZero nonzero
    rw [hf]
    exact ⟨_, rfl, PairColumns.hasLength_ofRows _, lists_rowWith hf⟩

/-! ## Rows in exact arithmetic -/

/-- What a row says about its pair when it is read exactly. -/
structure Measures (kernel : Kernel ℝ) (positions : Vector (Vector3 ℝ) n) (row : PairRow n ℝ) :
    Prop where
  distance_pos : 0 < row.distance
  distance_le : row.distance ≤ kernel.supportRadius
  unit : row.direction.norm = 1
  along : row.distance • row.direction = positions[row.pair.2] - positions[row.pair.1]
  both : row.slope = Sides.both row.slope.i
  slope_eq : kernel.slope row.distance = .ok row.slope.i
  slope_nonpos : row.slope.i ≤ 0

theorem measures_rowWith {kernel : Kernel ℝ} {positions : Vector (Vector3 ℝ) n} (sound : kernel.Sound)
    {factor : ℝ} (hf : kernel.slopeFactor = .ok factor) {p : Fin n × Fin n}
    (hp : p ∈ apartIndices positions kernel.supportRadius) :
    Measures kernel positions (rowWith kernel positions factor p) := by
  obtain ⟨i, j⟩ := p
  obtain ⟨-, within, apart⟩ := mem_apartIndices_iff.mp hp
  have pos : 0 < (separation positions i j).distance :=
    distance_pos_of_isApart sound.radius_pos apart
  have le := (withinSupport_iff sound.radius_pos).mp within
  refine ⟨pos, le, ?_, ?_, rfl, ?_, sound.slope_nonpos hf pos le⟩
  · change ((separation positions i j).vector.divide (separation positions i j).distance).norm = 1
    rw [Vector3.divide_eq, Vector3.norm_smul _ _ (inv_nonneg.mpr pos.le)]
    exact inv_mul_cancel₀ pos.ne'
  · rw [pair_rowWith]
    change (separation positions i j).distance •
      (separation positions i j).vector.divide (separation positions i j).distance =
        (separation positions i j).vector
    rw [Vector3.divide_eq, smul_inv_smul₀ pos.ne']
  · rw [Kernel.slope, hf]
    exact congrArg Except.ok (kernel.slopeWith_sampling _ _ _ _)

/-- The rows of the pairs that do not coincide, with the slopes of the kernel. -/
noncomputable def rowsAt (kernel : Kernel ℝ) (positions : Vector (Vector3 ℝ) n) : List (PairRow n ℝ) :=
  (apartIndices positions kernel.supportRadius).map
    (rowWith kernel positions (kernel.normalization / kernel.smoothingLength))

/-- Over exact numbers a sound kernel finds the pairs that do not coincide. -/
theorem find_eq_rowsAt {kernel : Kernel ℝ} (sound : kernel.Sound) (positions : Vector (Vector3 ℝ) n) :
    (find kernel positions).result = .ok (rowsAt kernel positions) := by
  obtain ⟨rows, found⟩ := find_ends sound positions
  obtain ⟨factor, hf, rfl⟩ := rows_of_find found
  cases hf.symm.trans sound.slopeFactor_eq
  rw [found, apart_candidates, List.map_map]
  rfl

/-- The rows that a sound kernel finds measure their pairs. -/
theorem measures_of_mem_rowsAt {kernel : Kernel ℝ} {positions : Vector (Vector3 ℝ) n}
    (sound : kernel.Sound) {row : PairRow n ℝ} (hmem : row ∈ rowsAt kernel positions) :
    Measures kernel positions row := by
  obtain ⟨p, hp, rfl⟩ := List.mem_map.mp hmem
  exact measures_rowWith sound sound.slopeFactor_eq hp

theorem distance_ne_zero_of_mem_rowsAt {kernel : Kernel ℝ} (sound : kernel.Sound)
    (positions : Vector (Vector3 ℝ) n) : ∀ row ∈ rowsAt kernel positions, row.distance ≠ 0 :=
  fun _ hmem => (measures_of_mem_rowsAt sound hmem).distance_pos.ne'

/-- The interacting pairs are what a search lists, unless the smoothing length is zero: each once, with
the smaller index first, in order, in columns of one length, with a warning of the pairs that are dropped
just if there are some. Read exactly, a kernel that is ready makes every search succeed, and every row
measures its pair. -/
theorem search_lists_interacting {n : Nat} (query : List (Fin n × Fin n)) :
    (∀ {α : Type} [Arithmetic α] {kernel : Kernel α} {positions : Vector (Vector3 α) n},
      kernel.ready = true → IsQuery positions kernel.supportRadius query →
      (Arithmetic.isZero kernel.smoothingLength = true →
        (search query kernel positions).result = .error .zeroDivisor) ∧
      (Arithmetic.isZero kernel.smoothingLength = false → ∃ rows,
        search query kernel positions =
          ⟨warning (query.countP fun p =>
              !isApart kernel.supportRadius (separation positions p.1 p.2)), .ok (.ofRows rows)⟩ ∧
        (PairColumns.ofRows rows).HasLength rows.length ∧ Lists kernel positions rows)) ∧
    ∀ {kernel : Kernel ℝ} {positions : Vector (Vector3 ℝ) n},
      kernel.Reachable → kernel.ready = true → IsQuery positions kernel.supportRadius query →
      ∃ rows, (search query kernel positions).result = .ok (.ofRows rows) ∧
        Lists kernel positions rows ∧ ∀ row ∈ rows, Measures kernel positions row := by
  constructor
  · intro α _ kernel positions ready h
    exact search_lists ready h
  · intro kernel positions reachable ready h
    have sound := reachable.sound ready
    rw [search_eq ready h, sound.slopeFactor_eq]
    refine ⟨_, rfl, lists_rowWith sound.slopeFactor_eq, fun row hrow => ?_⟩
    obtain ⟨p, hp, rfl⟩ := List.mem_map.mp hrow
    exact measures_rowWith sound sound.slopeFactor_eq hp

def coincidingPositions : Vector (Vector3 Float) 3 :=
  #v[⟨0.0, 0.0, 0.0⟩, ⟨1.0, 0.0, 0.0⟩, ⟨1.0, 0.0, 0.0⟩]

/-- Their pairs, handed out in reverse order. -/
def coincidingPairs : List (Fin 3 × Fin 3) :=
  (indices coincidingPositions (Kernel.onLine (.whole 2)).supportRadius).reverse

theorem isQuery_coincidingPairs :
    IsQuery coincidingPositions (Kernel.onLine (.whole 2)).supportRadius coincidingPairs :=
  ⟨List.nodup_reverse.mpr indices_nodup, fun _ _ => List.mem_reverse.trans mem_indices_iff⟩

noncomputable def unitPositions : Vector (Vector3 ℝ) 2 := #v[⟨0, 0, 0⟩, ⟨1, 0, 0⟩]

theorem isQuery_indices : IsQuery positions radius (indices positions radius) :=
  ⟨indices_nodup, fun _ _ => mem_indices_iff⟩

theorem search_lists_interacting_coincidingPairs :
    IsQuery coincidingPositions (Kernel.onLine (.whole 2)).supportRadius coincidingPairs ∧
    (∃ rows, search coincidingPairs (Kernel.onLine (.whole 2)) coincidingPositions =
        ⟨[.coincidentSkipped 1], .ok (.ofRows rows)⟩ ∧
      Lists (Kernel.onLine (.whole 2)) coincidingPositions rows) ∧
    ∃ rows, (search (indices unitPositions Kernel.lineKernel.supportRadius) Kernel.lineKernel
        unitPositions).result = .ok (.ofRows rows) ∧
      ∀ row ∈ rows, Measures Kernel.lineKernel unitPositions row := by
  obtain ⟨lists, -⟩ := search_lists_interacting coincidingPairs
  have ready : (Kernel.onLine (.whole 2)).ready = true := by decide +kernel
  have nonzero : Arithmetic.isZero (Kernel.onLine (.whole 2)).smoothingLength = false := by
    decide +kernel
  obtain ⟨rows, listed, -, rowsListed⟩ := (lists ready isQuery_coincidingPairs).2 nonzero
  have dropped : coincidingPairs.countP (fun p => !isApart (Kernel.onLine (.whole 2)).supportRadius
      (separation coincidingPositions p.1 p.2)) = 1 := by decide +kernel
  rw [dropped] at listed
  obtain ⟨reachable, lineReady⟩ := Kernel.reachable_of_create Kernel.create_lineKernel
  obtain ⟨-, exactly⟩ :=
    search_lists_interacting (indices unitPositions Kernel.lineKernel.supportRadius)
  obtain ⟨rows', listed', -, measured⟩ := exactly reachable lineReady isQuery_indices
  exact ⟨isQuery_coincidingPairs, ⟨rows, listed, rowsListed⟩, rows', listed', measured⟩

/-- A kernel that is ready, with a positive radius, may make a search fail. -/
theorem search_not_total :
    ¬ ∀ {n : Nat} (kernel : Kernel Float) (positions : Vector (Vector3 Float) n)
        (query : List (Fin n × Fin n)),
      kernel.Reachable → kernel.ready = true → 0.0 < kernel.supportRadius →
      positions.toList.all Vector3.isFinite = true →
      IsQuery positions kernel.supportRadius query →
      ∃ columns, (search query kernel positions).result = .ok columns := by
  intro total
  obtain ⟨ready, pos, -⟩ := Kernel.outgrownKernel_not_selfConsistent
  let positions : Vector (Vector3 Float) 2 := #v[⟨0.0, 0.0, 0.0⟩, ⟨1.0, 0.0, 0.0⟩]
  have query : IsQuery positions Kernel.outgrownKernel.supportRadius [] :=
    ⟨by decide, by decide +kernel⟩
  have finite : positions.toList.all Vector3.isFinite = true := by decide +kernel
  obtain ⟨columns, listed⟩ :=
    total _ positions [] Kernel.outgrownKernel_reachable ready pos finite query
  have zero : Arithmetic.isZero Kernel.outgrownKernel.smoothingLength = true := by decide +kernel
  rw [(search_lists ready query).1 zero] at listed
  cases listed

end Neighbours

end ParticleMomentum
