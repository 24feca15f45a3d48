import ParticleMomentum.Proofs.Evaluation.Benches
import ParticleMomentum.Proofs.Evaluation.Rearrangement

/-!
# Relabelled particles

The indices of particles are mere names. If the particles of an ensemble change places, then in exact
arithmetic a search finds the same pairs under their new names, though in another order, and some of them
from their other particle, since the smaller index stands first. So what an evaluation leaves behind has
changed places as well.
-/

namespace ParticleMomentum

variable {n : Nat} (s : Equiv.Perm (Fin n))

/-! ## New names -/

/-- The ensemble that holds at place `k` the particle of place `s k`. -/
def Ensemble.relabel {α : Type} (e : Ensemble n α) : Ensemble n α :=
  e.mapParticles fun k _ => e.particles[s k]

/-- The row of a pair of a relabelled ensemble, among the particles before. -/
def PairRow.relabel {α : Type} (row : PairRow n α) : PairRow n α :=
  { row with labels := row.labels.map fun label => Label.ofFin (s label.particle) }

/-- The input of a pair of a relabelled ensemble, among the particles before. -/
def PairInput.relabel {α : Type} (input : PairInput n α) : PairInput n α :=
  { input with row := input.row.relabel s }

@[simp] theorem Ensemble.relabel_particle {α : Type} (e : Ensemble n α) (k : Fin n) :
    (e.relabel s).particles[k] = e.particles[s k] :=
  e.mapParticles_particle _ k

@[simp] theorem PairRow.particles_relabel {α : Type} (row : PairRow n α) :
    (row.relabel s).particles = row.particles.map s := by
  simp [PairRow.particles, PairRow.relabel, Sides.map]

theorem Ensemble.sides_relabel {α : Type} (e : Ensemble n α) (row : PairRow n α) :
    (e.relabel s).sides row = e.sides (row.relabel s) := by
  simp [Ensemble.sides, Sides.map]

/-! ## Evaluations -/

namespace Evaluator

variable {scheme : Scheme} {plan : Plan ℝ} {e : Ensemble n ℝ} {rows rows' : List (PairRow n ℝ)}
variable {modified modified' : Sides (Option (List ℝ))} {inputs inputs' : List (PairInput n ℝ)}

theorem diffuses_relabel (input : PairInput n ℝ) :
    Diffuses scheme (e.relabel s) input ↔ Diffuses scheme e (input.relabel s) := by
  rw [Diffuses, Diffuses, e.sides_relabel]
  rfl

theorem divides_relabel (input : PairInput n ℝ) :
    Divides scheme (e.relabel s) input ↔ Divides scheme e (input.relabel s) := by
  rw [Divides, Divides, e.sides_relabel]
  rfl

/-- A pair adds to a relabelled particle what it adds to that particle under its old name. -/
theorem gain_relabel (k : Fin n) (input : PairInput n ℝ) :
    gain scheme plan (e.relabel s) k input = gain scheme plan e (s k) (input.relabel s) := by
  funext target
  rw [gain, gain, PairRow.reaching_apply, PairRow.reaching_apply, e.sides_relabel]
  simp only [PairInput.relabel, PairRow.particles_relabel, Sides.map, s.injective.eq_iff]
  rfl

/-- Particles that have changed places end up as before, in their new places, if the pairs are those of
before under their new names, in any order and from either particle. -/
theorem evaluate_relabel (ev : Evaluator ℝ) (scheme : Scheme) (e : Ensemble n ℝ)
    (fits : Evaluator.inputs rows modified = .ok inputs)
    (fits' : Evaluator.inputs rows' modified' = .ok inputs')
    (rearranged : Rearranged inputs (inputs'.map (PairInput.relabel s)))
    (apart : ∀ row ∈ rows, row.distance ≠ 0) (apart' : ∀ row ∈ rows', row.distance ≠ 0) :
    let run := ev.evaluate (FormulationClass.ofScheme scheme) rows modified e
    let run' := ev.evaluate (FormulationClass.ofScheme scheme) rows' modified' (e.relabel s)
    EndAlike run'.1.result run.1.result ∧
      (run.1.result = .ok () → ∀ k : Fin n, run'.2.particles[k] = run.2.particles[s k]) := by
  intro run run'
  have diffuses : (∀ input ∈ inputs', Diffuses scheme (e.relabel s) input) ↔
      ∀ input ∈ inputs, Diffuses scheme e input := by
    rw [← rearranged.forall_iff diffuses_mirror, List.forall_mem_map]
    exact forall₂_congr fun input _ => diffuses_relabel s input
  have divides : (∀ input ∈ inputs', Divides scheme (e.relabel s) input) ↔
      ∀ input ∈ inputs, Divides scheme e input := by
    rw [← rearranged.forall_iff divides_mirror, List.forall_mem_map]
    exact forall₂_congr fun input _ => divides_relabel s input
  have alike : EndAlike run'.1.result run.1.result :=
    evaluate_endAlike fits fits' apart apart' diffuses divides
  refine ⟨alike, fun completes k => ?_⟩
  obtain ⟨plan, h, h'⟩ := exists_completes fits fits' alike completes
  have gains : inputs'.map (gain scheme plan (e.relabel s) k) =
      (inputs'.map (PairInput.relabel s)).map (gain scheme plan e (s k)) := by
    rw [List.map_map]
    exact List.map_congr_left fun input _ => gain_relabel s k input
  have sums := (rearranged.perm_map (f := gain scheme plan e (s k)) (gain_mirror (s k))).sum_eq
  refine (h'.particle_gain k).trans (Eq.trans ?_ (h.particle_gain (s k)).symm)
  rw [gains, ← sums, e.relabel_particle]

end Evaluator

/-! ## Searches -/

namespace Neighbours

variable {positions : Vector (Vector3 ℝ) n} {radius : ℝ}

/-- Two particles interact: they are not farther apart than the support radius, and do not coincide. -/
def Interact (positions : Vector (Vector3 ℝ) n) (radius : ℝ) (i j : Fin n) : Prop :=
  withinSupport positions radius i j = true ∧ isApart radius (separation positions i j) = true

/-- The smaller of two indices first. -/
def orient (p : Fin n × Fin n) : Fin n × Fin n := if p.1 < p.2 then p else p.swap

theorem orient_eq_or (p : Fin n × Fin n) : orient p = p ∨ orient p = p.swap := by
  rw [orient]
  split
  · exact .inl rfl
  · exact .inr rfl

theorem orient_of_lt {p : Fin n × Fin n} (h : p.1 < p.2) : orient p = p := if_pos h

theorem orient_of_gt {p : Fin n × Fin n} (h : p.2 < p.1) : orient p = p.swap := if_neg h.asymm

theorem orient_lt {p : Fin n × Fin n} (ne : p.1 ≠ p.2) : (orient p).1 < (orient p).2 := by
  cases lt_or_gt_of_ne ne with
  | inl h =>
      rw [orient_of_lt h]
      exact h
  | inr h =>
      rw [orient_of_gt h]
      exact h

theorem interact_iff {i j : Fin n} :
    Interact positions radius i j ↔
      (positions[j] - positions[i]).squaredNorm ≤ radius * radius ∧
        coincidentTolerance * radius < (positions[j] - positions[i]).norm :=
  and_congr decide_eq_true_iff decide_eq_true_iff

theorem interact_comm {i j : Fin n} :
    Interact positions radius i j ↔ Interact positions radius j i := by
  rw [interact_iff, interact_iff, ← neg_sub, Vector3.squaredNorm_neg, Vector3.norm_neg]

theorem apartIndices_nodup : (apartIndices positions radius).Nodup := indices_nodup.filter _

theorem mem_apartIndices {p : Fin n × Fin n} :
    p ∈ apartIndices positions radius ↔ p.1 < p.2 ∧ Interact positions radius p.1 p.2 :=
  mem_apartIndices_iff

/-- The interacting pairs are listed with the smaller index first, whichever way they are named. -/
theorem orient_mem_apartIndices {p : Fin n × Fin n} (ne : p.1 ≠ p.2) :
    orient p ∈ apartIndices positions radius ↔ Interact positions radius p.1 p.2 := by
  rw [mem_apartIndices, and_iff_right (orient_lt ne)]
  cases orient_eq_or p with
  | inl kept => rw [kept]
  | inr turned =>
      rw [turned]
      exact interact_comm

/-- The positions of particles that have changed places. -/
theorem interact_relabel (e : Ensemble n ℝ) (i j : Fin n) :
    Interact (e.relabel s).positions radius i j ↔ Interact e.positions radius (s i) (s j) := by
  simp only [interact_iff, Ensemble.positions_particle, Ensemble.relabel_particle]

/-- The old names of a pair, the smaller index first. -/
def rename (p : Fin n × Fin n) : Fin n × Fin n := orient (s p.1, s p.2)

theorem rename_lt {p : Fin n × Fin n} (ordered : p.1 < p.2) : (rename s p).1 < (rename s p).2 :=
  orient_lt (s.injective.ne ordered.ne)

/-- Giving the names back restores a pair. -/
theorem rename_symm_rename {p : Fin n × Fin n} (ordered : p.1 < p.2) :
    rename s.symm (rename s p) = p := by
  rw [rename, rename]
  cases orient_eq_or (s p.1, s p.2) with
  | inl kept =>
      rw [kept, s.symm_apply_apply, s.symm_apply_apply]
      exact orient_of_lt ordered
  | inr turned =>
      rw [turned, Prod.swap_prod_mk, s.symm_apply_apply, s.symm_apply_apply]
      exact orient_of_gt ordered

theorem rename_mem_apartIndices (e : Ensemble n ℝ) {p : Fin n × Fin n} (ordered : p.1 < p.2) :
    rename s p ∈ apartIndices e.positions radius ↔
      p ∈ apartIndices (e.relabel s).positions radius := by
  rw [rename, orient_mem_apartIndices (s.injective.ne ordered.ne), ← interact_relabel,
    mem_apartIndices, and_iff_right ordered]

/-- The pairs of particles that have changed places are the pairs under their old names. -/
theorem perm_apartIndices (e : Ensemble n ℝ) :
    (apartIndices e.positions radius).Perm
      ((apartIndices (e.relabel s).positions radius).map (rename s)) := by
  refine (List.perm_ext_iff_of_nodup apartIndices_nodup ?_).mpr fun q => ?_
  · refine apartIndices_nodup.map_on fun p hp q hq same => ?_
    rw [← rename_symm_rename s (mem_apartIndices.mp hp).1, same,
      rename_symm_rename s (mem_apartIndices.mp hq).1]
  · rw [List.mem_map]
    constructor
    · intro hq
      have ordered := (mem_apartIndices.mp hq).1
      have restored : rename s (rename s.symm q) = q := rename_symm_rename s.symm ordered
      refine ⟨rename s.symm q, ?_, restored⟩
      rwa [← rename_mem_apartIndices s e (rename_lt s.symm ordered), restored]
    · rintro ⟨p, hp, rfl⟩
      exact (rename_mem_apartIndices s e (mem_apartIndices.mp hp).1).mpr hp

/-! ## Rows -/

variable {kernel : Kernel ℝ} {factor : ℝ}

/-- The row of a pair, named the other way round, is the mirror image. -/
theorem mirror_rowWith (p : Fin n × Fin n) :
    (rowWith kernel positions factor p).mirror = rowWith kernel positions factor p.swap := by
  have back : positions[p.1] - positions[p.2] = -(positions[p.2] - positions[p.1]) :=
    (neg_sub _ _).symm
  simp only [rowWith, separation, rowOf, PairRow.mirror, Prod.fst_swap, Prod.snd_swap, back,
    Vector3.norm_neg, Vector3.divide_eq, smul_neg]
  rfl

/-- The row of two particles that have changed places is the row under their old names. -/
theorem relabel_rowWith (e : Ensemble n ℝ) (p : Fin n × Fin n) :
    (rowWith kernel (e.relabel s).positions factor p).relabel s =
      rowWith kernel e.positions factor (s p.1, s p.2) := by
  simp only [rowWith, separation, rowOf, PairRow.relabel, Sides.map, Label.particle_ofFin,
    Ensemble.positions_particle, Ensemble.relabel_particle]

/-- A pair and the same pair with the smaller index first are the same or mirror images. -/
theorem input_rowWith_eq_or (kernel : Kernel ℝ) (positions : Vector (Vector3 ℝ) n) (factor : ℝ)
    (p : Fin n × Fin n) :
    (rowWith kernel positions factor p).input = (rowWith kernel positions factor (orient p)).input ∨
      (rowWith kernel positions factor p).input =
        (rowWith kernel positions factor (orient p)).input.mirror := by
  cases orient_eq_or p with
  | inl kept =>
      rw [kept]
      exact .inl rfl
  | inr turned =>
      have mirrored : (rowWith kernel positions factor p.swap).input.mirror =
          (rowWith kernel positions factor p.swap).mirror.input := rfl
      rw [turned, mirrored, mirror_rowWith, Prod.swap_swap]
      exact .inr rfl

/-- What a search finds after particles have changed places is what it finds before, rearranged. -/
theorem rearranged_relabel (kernel : Kernel ℝ) (e : Ensemble n ℝ) :
    Rearranged ((rowsAt kernel e.positions).map PairRow.input)
      (((rowsAt kernel (e.relabel s).positions).map PairRow.input).map (PairInput.relabel s)) := by
  refine ⟨_, ((perm_apartIndices s e).map _).map _, ?_⟩
  rw [rowsAt, List.map_map, List.map_map, List.map_map, List.map_map, List.forall₂_map_left_iff,
    List.forall₂_map_right_iff, List.forall₂_same]
  intro p _
  let factor := kernel.normalization / kernel.smoothingLength
  have renamed : (rowWith kernel (e.relabel s).positions factor p).input.relabel s =
      (rowWith kernel e.positions factor (s p.1, s p.2)).input := by
    rw [← relabel_rowWith]
    rfl
  have either := input_rowWith_eq_or kernel e.positions factor (s p.1, s p.2)
  rw [← renamed] at either
  exact either

end Neighbours

namespace Bench

open Neighbours

/-- If the particles change places, finding the pairs and evaluating the momentum equation for them ends
as before; and if it completes, every particle is left as before, in its new place. The kernel may have
any history, as long as it is ready. -/
theorem solve_relabelled (b : Bench n ℝ) (scheme : Scheme)
    (kind : b.formulation.kind = FormulationClass.ofScheme scheme) (reachable : b.kernel.Reachable)
    (ready : b.kernel.ready = true) (s : Equiv.Perm (Fin n)) :
    let run := solve b
    let run' := solve { b with ensemble := b.ensemble.relabel s }
    EndAlike run'.1.result run.1.result ∧
      (run.1.result = .ok () →
        ∀ k : Fin n, run'.2.ensemble.particles[k] = run.2.ensemble.particles[s k]) := by
  intro run run'
  have sound := reachable.sound ready
  obtain ⟨result, after⟩ : run.1.result = _ ∧ run.2 = _ := solve_eq_of_sound sound kind
  obtain ⟨result', after'⟩ : run'.1.result = _ ∧ run'.2 = _ := solve_eq_of_sound sound kind
  obtain ⟨alike, same⟩ := Evaluator.evaluate_relabel s b.evaluator scheme b.ensemble
    (Evaluator.inputs_none _) (Evaluator.inputs_none _) (rearranged_relabel s b.kernel b.ensemble)
    (distance_ne_zero_of_mem_rowsAt sound _) (distance_ne_zero_of_mem_rowsAt sound _)
  rw [result, result', after, after']
  exact ⟨alike, same⟩

/-! ## Two particles that change places -/

/-- A bench with two loaded particles, a kernel on a line and all terms of the Adami scheme. -/
noncomputable def loadedBench : Bench 2 ℝ :=
  ⟨.create .adami .null, Kernel.lineKernel, Evaluator.wholeEvaluator, Evaluator.loadedPair, none⟩

theorem loadedBench_completes : (solve loadedBench).1.result = .ok () :=
  solve_completes_of_material (Kernel.sound_of_create Kernel.create_lineKernel)
    (show _ = FormulationClass.ofScheme .adami from rfl) rfl Evaluator.loadedPair_material
    Evaluator.checkDiffusion_adami

theorem solve_relabelled_loadedBench :
    let run := solve loadedBench
    let run' := solve { loadedBench with ensemble := loadedBench.ensemble.relabel (Equiv.swap 0 1) }
    run.1.result = .ok () ∧ run'.1.result = .ok () ∧
      ∀ k : Fin 2, run'.2.ensemble.particles[k] = run.2.ensemble.particles[Equiv.swap 0 1 k] := by
  intro run run'
  obtain ⟨reachable, ready⟩ := Kernel.reachable_of_create Kernel.create_lineKernel
  obtain ⟨alike, same⟩ := solve_relabelled loadedBench .adami rfl reachable ready (Equiv.swap 0 1)
  exact ⟨loadedBench_completes, alike.ok_iff.mpr loadedBench_completes, same loadedBench_completes⟩

end Bench

end ParticleMomentum
