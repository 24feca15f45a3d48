import ParticleMomentum.Proofs.Evaluation.Outcomes

/-!
# Rearranged lists of pairs

A list of pairs stands for a set of unordered pairs. Its order does not matter to an evaluation in exact
arithmetic, and neither does which particle of a pair comes first: a pair and its mirror image, with the
direction reversed and the slopes exchanged, add the same to the same particles. For one pair this is the
symmetry of every term of the momentum equation under the exchange of its sides; over a list it is that
sums do not depend on their order.
-/

namespace ParticleMomentum

variable {n : Nat} {scheme : Scheme} {plan : Plan ℝ}

/-! ## The exchange of sides -/

def Side.other : Side → Side
  | .i => .j
  | .j => .i

def Sides.swap {β : Type} (s : Sides β) : Sides β := ⟨s.j, s.i⟩

noncomputable def PairRow.mirror (row : PairRow n ℝ) : PairRow n ℝ where
  labels := row.labels.swap
  direction := -row.direction
  distance := row.distance
  slope := row.slope.swap

/-- The same pair from its other particle, modified slopes included. -/
noncomputable def PairInput.mirror (input : PairInput n ℝ) : PairInput n ℝ :=
  ⟨input.row.mirror, input.modifiedSlope.swap⟩

theorem Ensemble.sides_mirror (e : Ensemble n ℝ) (row : PairRow n ℝ) :
    e.sides row.mirror = (e.sides row).swap := rfl

namespace Equation

variable (p : Sides (Particle ℝ)) (row : PairRow n ℝ)

theorem harmonicMean_swap (x : Sides ℝ) : harmonicMean x.swap = harmonicMean x := by
  rw [harmonicMean, harmonicMean]
  refine if_congr and_comm ?_ rfl
  rw [Sides.swap, add_comm, mul_right_comm]

theorem diffusion_swap : diffusion p.swap = diffusion p :=
  congrArg₂ (fun x y => 5 * (x / 3) - y) (harmonicMean_swap (p.map (·.viscosity)))
    (harmonicMean_swap (p.map (·.bulkViscosity)))

theorem coefficient_mirror :
    coefficient scheme p.swap row.mirror = (coefficient scheme p row).swap := by
  cases scheme with
  | monaghan => rfl
  | adami =>
      simp only [coefficient, Sides.swap, PairRow.mirror]
      rw [add_comm]

theorem pressureFactor_swap : pressureFactor scheme p.swap = pressureFactor scheme p := by
  cases scheme with
  | monaghan => exact add_comm _ _
  | adami =>
      simp only [pressureFactor, Sides.swap]
      rw [add_comm, add_comm p.j.density]

theorem relativeVelocity_swap : relativeVelocity p.swap = -relativeVelocity p :=
  (neg_sub _ _).symm

theorem shearVector_mirror :
    shearVector scheme plan p.swap row.mirror = -shearVector scheme plan p row := by
  have viscosity : harmonicMean (p.swap.map (·.viscosity)) = harmonicMean (p.map (·.viscosity)) :=
    harmonicMean_swap (p.map (·.viscosity))
  have bulk : harmonicMean (p.swap.map (·.bulkViscosity)) = harmonicMean (p.map (·.bulkViscosity)) :=
    harmonicMean_swap (p.map (·.bulkViscosity))
  cases scheme with
  | monaghan =>
      -- both the relative velocity and the direction are reversed, their product is not
      have along : (-relativeVelocity p).dot (-row.direction) = (relativeVelocity p).dot row.direction := by
        rw [Vector3.neg_dot, Vector3.dot_neg, neg_neg]
      simp only [shearVector, viscosity, bulk, relativeVelocity_swap, PairRow.mirror, along]
      rw [Sides.swap, mul_comm p.j.density, smul_neg, smul_neg, neg_add]
  | adami =>
      simp only [shearVector, viscosity, relativeVelocity_swap, PairRow.mirror]
      rw [smul_neg]

theorem transportPart_mirror (q : Particle ℝ) :
    transportPart scheme row.mirror q = -transportPart scheme row q := by
  rw [transportPart, transportPart, PairRow.mirror, Vector3.dot_neg, mul_neg, neg_smul]

/-- What drives both sides of a pair is reversed with the pair. -/
theorem flux_mirror : flux scheme plan p.swap row.mirror = -flux scheme plan p row := by
  have parts : (if plan.transport then
      transportPart scheme row.mirror p.j + transportPart scheme row.mirror p.i else 0) =
      -if plan.transport then transportPart scheme row p.i + transportPart scheme row p.j else 0 := by
    rw [transportPart_mirror, transportPart_mirror, ← neg_add, add_comm, ← neg_zero, ← apply_ite Neg.neg,
      neg_zero]
  rw [flux, flux, pressureFactor_swap, shearVector_mirror, neg_add, neg_add, ← parts]
  rw [PairRow.mirror, smul_neg]
  rfl

theorem acceleration_mirror (side : Side) :
    acceleration scheme plan p.swap row.mirror side = acceleration scheme plan p row side.other := by
  cases side with
  | i =>
      rw [Side.other, acceleration_i, acceleration_j, coefficient_mirror, flux_mirror, smul_neg]
      rfl
  | j =>
      rw [Side.other, acceleration_i, acceleration_j, coefficient_mirror, flux_mirror, smul_neg, neg_neg]
      rfl

/-- Multiples of a direction, with a minus sign on the first side, when the direction is reversed. -/
theorem opposed_neg (x y : ℝ) (direction : Vector3 ℝ) :
    (⟨-y • -direction, x • -direction⟩ : Sides (Vector3 ℝ)) =
      Sides.swap ⟨-x • direction, y • direction⟩ := by
  rw [neg_smul_neg, smul_neg, Sides.swap, neg_smul]

theorem standardBackground_mirror :
    standardBackground scheme p.swap row.mirror = (standardBackground scheme p row).swap := by
  cases scheme with
  | monaghan =>
      simp only [standardBackground, coefficient_mirror]
      rw [← opposed_neg]
      simp only [Sides.swap]
      rw [add_comm]
      rfl
  | adami =>
      simp only [standardBackground, coefficient_mirror]
      exact opposed_neg _ _ _

theorem generalizedBackground_mirror (slope : Sides ℝ) :
    generalizedBackground scheme p.swap row.mirror slope.swap =
      (generalizedBackground scheme p row slope).swap := by
  cases scheme with
  | monaghan => exact opposed_neg _ _ _
  | adami => exact opposed_neg _ _ _

/-- A pair and its mirror image have the same for each of their particles. -/
theorem amount_mirror (slope : Sides ℝ) (target : Target) (side : Side) :
    amount scheme plan p.swap row.mirror slope.swap target side =
      amount scheme plan p row slope target side.other := by
  cases target with
  | acceleration => exact acceleration_mirror p row side
  | modifiedAcceleration =>
      simp only [amount, modifiedAcceleration]
      cases plan.background with
      | off => rfl
      | standard =>
          simp only [standardBackground_mirror]
          cases side <;> rfl
      | generalized =>
          simp only [generalizedBackground_mirror]
          cases side <;> rfl

end Equation

theorem Scheme.admits_swap {p : Sides (Particle ℝ)} : scheme.Admits p.swap ↔ scheme.Admits p := by
  have exchanged {p : Sides (Particle ℝ)} (h : scheme.Admits p) : scheme.Admits p.swap := by
    refine ⟨h.density.symm, fun adami => (h.mass adami).symm, fun adami => ?_⟩
    exact fun zero => h.densities adami ((add_comm _ _).trans zero)
  exact ⟨fun h => exchanged h, exchanged⟩

/-! ## Rearranged lists -/

/-- The pairs in another order, some of them from their other particle. -/
def Rearranged (inputs inputs' : List (PairInput n ℝ)) : Prop :=
  ∃ permuted, inputs.Perm permuted ∧
    List.Forall₂ (fun input input' => input' = input ∨ input' = input.mirror) permuted inputs'

namespace Rearranged

variable {inputs inputs' : List (PairInput n ℝ)}

/-- What does not distinguish a pair from its mirror image takes the same values on both lists, in some
order. -/
theorem perm_map {β : Type} {f : PairInput n ℝ → β} (h : Rearranged inputs inputs')
    (mirrored : ∀ input, f input.mirror = f input) : (inputs.map f).Perm (inputs'.map f) := by
  obtain ⟨permuted, perm, turned⟩ := h
  have same : permuted.map f = inputs'.map f := by
    clear perm
    induction turned with
    | nil => rfl
    | cons first rest ih =>
        rw [List.map_cons, List.map_cons, ih]
        rcases first with rfl | rfl
        · rfl
        · rw [mirrored]
  exact same ▸ perm.map f

theorem forall_iff {P : PairInput n ℝ → Prop} (h : Rearranged inputs inputs')
    (mirrored : ∀ input, P input.mirror ↔ P input) :
    (∀ input ∈ inputs', P input) ↔ ∀ input ∈ inputs, P input := by
  have perm := h.perm_map fun input => propext (mirrored input)
  have each (l : List (PairInput n ℝ)) : (∀ input ∈ l, P input) ↔ ∀ holds ∈ l.map P, holds :=
    (List.forall_mem_map (f := P) (P := id)).symm
  rw [each, each]
  exact forall_congr' fun holds => imp_congr_left perm.mem_iff.symm

end Rearranged

namespace Evaluator

variable {e : Ensemble n ℝ} {rows rows' : List (PairRow n ℝ)}
variable {modified modified' : Sides (Option (List ℝ))} {inputs inputs' : List (PairInput n ℝ)}

theorem diffuses_mirror (input : PairInput n ℝ) :
    Diffuses scheme e input.mirror ↔ Diffuses scheme e input := by
  have same : Equation.diffusion (e.sides input.mirror.row) = Equation.diffusion (e.sides input.row) :=
    Equation.diffusion_swap (e.sides input.row)
  rw [Diffuses, Diffuses, same]

theorem divides_mirror (input : PairInput n ℝ) :
    Divides scheme e input.mirror ↔ Divides scheme e input := by
  have flags : ((e.sides input.mirror.row).i.owned || (e.sides input.mirror.row).j.owned) =
      ((e.sides input.row).i.owned || (e.sides input.row).j.owned) := Bool.or_comm _ _
  rw [Divides, Divides, flags]
  exact imp_congr_right fun _ => Scheme.admits_swap (p := e.sides input.row)

/-- A pair and its mirror image add the same to each particle. -/
theorem gain_mirror (k : Fin n) (input : PairInput n ℝ) :
    gain scheme plan e k input.mirror = gain scheme plan e k input := by
  funext target
  rw [gain, gain, PairRow.reaching_apply, PairRow.reaching_apply, add_comm]
  have amounts (side : Side) :
      Equation.amount scheme plan (e.sides input.row).swap input.row.mirror input.modifiedSlope.swap
        target side =
      Equation.amount scheme plan (e.sides input.row) input.row input.modifiedSlope target side.other :=
    Equation.amount_mirror _ _ _ _ _
  simp only [PairInput.mirror, Ensemble.sides_mirror, amounts]
  rfl

/-- The order of the pairs does not matter, nor does it matter which particle of a pair comes first. If
pairs of particles that do not coincide are rearranged, and their modified slopes with them, the
evaluation ends as before, and if it completes, every particle is left as before. -/
theorem evaluate_rearranged (ev : Evaluator ℝ) (scheme : Scheme) (e : Ensemble n ℝ)
    (rows rows' : List (PairRow n ℝ)) (modified modified' : Sides (Option (List ℝ)))
    {inputs inputs' : List (PairInput n ℝ)} (fits : Evaluator.inputs rows modified = .ok inputs)
    (fits' : Evaluator.inputs rows' modified' = .ok inputs')
    (rearranged : Rearranged inputs inputs') (apart : ∀ row ∈ rows, row.distance ≠ 0) :
    let run := ev.evaluate (FormulationClass.ofScheme scheme) rows modified e
    let run' := ev.evaluate (FormulationClass.ofScheme scheme) rows' modified' e
    EndAlike run'.1.result run.1.result ∧
      (run.1.result = .ok () → ∀ k : Fin n, run'.2.particles[k] = run.2.particles[k]) := by
  intro run run'
  have apart' : ∀ row ∈ rows', row.distance ≠ 0 := by
    rw [← map_row_inputs fits, List.forall_mem_map] at apart
    rw [← map_row_inputs fits', List.forall_mem_map]
    exact (rearranged.forall_iff fun input => Iff.rfl).mpr apart
  have alike : EndAlike run'.1.result run.1.result :=
    evaluate_endAlike fits fits' apart apart' (rearranged.forall_iff diffuses_mirror)
      (rearranged.forall_iff divides_mirror)
  refine ⟨alike, fun completes k => ?_⟩
  obtain ⟨plan, h, h'⟩ := exists_completes fits fits' alike completes
  have sums := (rearranged.perm_map (f := gain scheme plan e k) (gain_mirror k)).sum_eq
  exact (h'.particle_gain k).trans ((congrArg _ sums.symm).trans (h.particle_gain k).symm)

/-! ## Three particles in a row -/

/-- Three loaded particles, each one unit of length from the next. -/
noncomputable def loadedTriple : Ensemble 3 ℝ :=
  ⟨Vector.ofFn fun k : Fin 3 => loadedParticle k.val⟩

noncomputable def tripleRow (k : Fin 2) : PairRow 3 ℝ :=
  Neighbours.rowOf ⟨k.castSucc, k.succ, ⟨1, 0, 0⟩, 1⟩ (-1 / 2)

theorem loadedTriple_material (k : Fin 3) : loadedTriple.particles[k].Material := by
  rw [show loadedTriple.particles[k] = loadedParticle k.val from Vector.getElem_ofFn _]
  exact loadedParticle_material _

theorem evaluate_rearranged_loadedTriple :
    let run := wholeEvaluator.evaluate (FormulationClass.ofScheme .adami) [tripleRow 0, tripleRow 1]
      ⟨none, none⟩ loadedTriple
    let run' := wholeEvaluator.evaluate (FormulationClass.ofScheme .adami)
      [(tripleRow 1).mirror, tripleRow 0] ⟨none, none⟩ loadedTriple
    run.1.result = .ok () ∧ run'.1.result = .ok () ∧
      ∀ k : Fin 3, run'.2.particles[k] = run.2.particles[k] := by
  intro run run'
  have apart : ∀ row ∈ [tripleRow 0, tripleRow 1], row.distance ≠ 0 := by
    simp [tripleRow, Neighbours.rowOf]
  let first : PairInput 3 ℝ := ⟨tripleRow 0, (tripleRow 0).slope⟩
  let second : PairInput 3 ℝ := ⟨tripleRow 1, (tripleRow 1).slope⟩
  have rearranged : Rearranged [first, second] [second.mirror, first] :=
    ⟨_, List.Perm.swap _ _ _, .cons (.inr rfl) (.cons (.inl rfl) .nil)⟩
  obtain ⟨alike, same⟩ := evaluate_rearranged wholeEvaluator .adami loadedTriple
    [tripleRow 0, tripleRow 1] [(tripleRow 1).mirror, tripleRow 0] ⟨none, none⟩ ⟨none, none⟩ rfl rfl
    rearranged apart
  have h : wholeEvaluator.Completes (FormulationClass.ofScheme .adami) wholePlan
      [tripleRow 0, tripleRow 1] ⟨none, none⟩ loadedTriple [first, second] :=
    completes_of_material rfl loadedTriple_material apart rfl checkDiffusion_adami
  have completes : run.1.result = .ok () := h.result
  exact ⟨completes, alike.ok_iff.mpr completes, same completes⟩

end Evaluator

end ParticleMomentum
