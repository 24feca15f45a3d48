import ParticleMomentum.Proofs.Evaluation.Benches
import ParticleMomentum.Proofs.Evaluation.Outcomes
import ParticleMomentum.Proofs.Exact.Frames

/-!
# Frame indifference

In exact arithmetic, what a search and an evaluation do does not depend on the frame of reference. A
search sees distances only, so it finds the same pairs with the same slopes, with directions in the new
frame; and an evaluation of these ends as before, with accelerations in the new frame. Where transport
velocities are corrected for, the frames must be at rest to each other.
-/

namespace ParticleMomentum

variable {n : Nat} (f : Frame)

/-! ## Evaluations -/

theorem Scheme.admits_frame {scheme : Scheme} {p : Sides (Particle ℝ)} :
    scheme.Admits (p.map f.particle) ↔ scheme.Admits p :=
  ⟨fun h => ⟨h.density, h.mass, h.densities⟩, fun h => ⟨h.density, h.mass, h.densities⟩⟩

theorem Frame.particle_receive (q : Particle ℝ) (g : Target → Vector3 ℝ) :
    f.particle (q.receive g) = (f.particle q).receive (f.turn.compLeft Target g) := by
  simp only [particle, Particle.receive, map_add]
  rfl

namespace Evaluator

variable {scheme : Scheme} {plan : Plan ℝ} {e : Ensemble n ℝ} {rows : List (PairRow n ℝ)}

theorem diffuses_frame (input : PairInput n ℝ) :
    Diffuses scheme (f.ensemble e) (f.input input) ↔ Diffuses scheme e input := by
  rw [Diffuses, Frame.input, f.sides_row]
  rfl

theorem divides_frame (input : PairInput n ℝ) :
    Divides scheme (f.ensemble e) (f.input input) ↔ Divides scheme e input := by
  rw [Divides, Frame.input, f.sides_row]
  exact imp_congr_right fun _ => Scheme.admits_frame f

/-- What a pair adds to a particle turns with the frame. -/
theorem gain_frame (still : plan.transport = true → f.boost = 0) (k : Fin n) (input : PairInput n ℝ) :
    gain scheme plan (f.ensemble e) k (f.input input) =
      f.turn.compLeft Target (gain scheme plan e k input) := by
  have owned (side : Side) : (((e.sides input.row).map f.particle).get side).owned =
      ((e.sides input.row).get side).owned := by
    cases side <;> rfl
  funext target
  rw [gain, gain, LinearMap.compLeft_apply, Function.comp, PairRow.reaching_apply,
    PairRow.reaching_apply, Frame.input, f.sides_row]
  simp only [owned, Equation.amount_frame f _ _ still, map_add, apply_ite f.turn, map_zero]
  rfl

/-- Particles in another frame end up as before, in that frame, if the rows of the pairs are those of
before in it. -/
theorem evaluate_frame (ev : Evaluator ℝ) (scheme : Scheme) (e : Ensemble n ℝ)
    {modified : Sides (Option (List ℝ))} {inputs : List (PairInput n ℝ)}
    (fits : Evaluator.inputs rows modified = .ok inputs)
    (fits' : Evaluator.inputs (rows.map f.row) modified = .ok (inputs.map f.input))
    (apart : ∀ row ∈ rows, row.distance ≠ 0)
    (still : ∀ plan, ev.plan = some plan → plan.transport = true → f.boost = 0) :
    let run := ev.evaluate (FormulationClass.ofScheme scheme) rows modified e
    let run' := ev.evaluate (FormulationClass.ofScheme scheme) (rows.map f.row) modified (f.ensemble e)
    EndAlike run'.1.result run.1.result ∧
      (run.1.result = .ok () → ∀ k : Fin n, run'.2.particles[k] = f.particle run.2.particles[k]) := by
  intro run run'
  have apart' : ∀ row ∈ rows.map f.row, row.distance ≠ 0 := List.forall_mem_map.mpr apart
  have diffuses : (∀ input ∈ inputs.map f.input, Diffuses scheme (f.ensemble e) input) ↔
      ∀ input ∈ inputs, Diffuses scheme e input := by
    rw [List.forall_mem_map]
    exact forall₂_congr fun input _ => diffuses_frame f input
  have divides : (∀ input ∈ inputs.map f.input, Divides scheme (f.ensemble e) input) ↔
      ∀ input ∈ inputs, Divides scheme e input := by
    rw [List.forall_mem_map]
    exact forall₂_congr fun input _ => divides_frame f input
  have alike : EndAlike run'.1.result run.1.result :=
    evaluate_endAlike fits fits' apart apart' diffuses divides
  refine ⟨alike, fun completes k => ?_⟩
  obtain ⟨plan, h, h'⟩ := exists_completes fits fits' alike completes
  have gains : (inputs.map f.input).map (gain scheme plan (f.ensemble e) k) =
      (inputs.map (gain scheme plan e k)).map (f.turn.compLeft Target) := by
    rw [List.map_map, List.map_map]
    exact List.map_congr_left fun input _ => gain_frame f (still plan h.plan_eq) k input
  rw [h'.particle_gain k, h.particle_gain k, f.particle_receive, map_list_sum, gains,
    f.ensemble_particle]

end Evaluator

/-! ## Searches -/

namespace Neighbours

variable (e : Ensemble n ℝ) {kernel : Kernel ℝ} {radius factor : ℝ}

theorem way_frame (i j : Fin n) :
    (f.ensemble e).positions[j] - (f.ensemble e).positions[i] =
      f.turn (e.positions[j] - e.positions[i]) := by
  simp only [Ensemble.positions_particle, Frame.ensemble_particle]
  exact f.position_sub_position _ _

/-- The same particles are in reach of each other, and the same ones coincide. -/
theorem apartIndices_frame :
    apartIndices (f.ensemble e).positions radius = apartIndices e.positions radius := by
  have within (i j : Fin n) : withinSupport (f.ensemble e).positions radius i j =
      withinSupport e.positions radius i j := by
    simp only [withinSupport, way_frame, Frame.squaredNorm_turn]
  have apart (i j : Fin n) : isApart radius (separation (f.ensemble e).positions i j) =
      isApart radius (separation e.positions i j) := by
    have distance : (separation (f.ensemble e).positions i j).distance =
        (separation e.positions i j).distance := by
      simp only [separation, way_frame, Frame.norm_turn]
    rw [isApart, isApart, distance]
  simp only [apartIndices, indices, within, apart]

theorem rowWith_frame (p : Fin n × Fin n) :
    rowWith kernel (f.ensemble e).positions factor p =
      f.row (rowWith kernel e.positions factor p) := by
  simp only [rowWith, rowOf, separation, way_frame, Frame.norm_turn, Vector3.divide_eq, Frame.row,
    map_smul]

/-- A search finds the same pairs, with the same distances and slopes. -/
theorem rowsAt_frame (kernel : Kernel ℝ) :
    rowsAt kernel (f.ensemble e).positions = (rowsAt kernel e.positions).map f.row := by
  rw [rowsAt, rowsAt, apartIndices_frame, List.map_map]
  exact List.map_congr_left fun p _ => rowWith_frame f e p

end Neighbours

namespace Bench

open Neighbours

/-- In another frame of reference, finding the pairs and evaluating the momentum equation for them gives
the same. The rows that are found differ in their directions only, which are those before in the new
frame; the evaluation ends as before; and if it completes, every particle is left as before, in the new
frame. Where transport velocities are corrected for, the new frame must be at rest to the old one. -/
theorem solve_inFrame (b : Bench n ℝ) (scheme : Scheme)
    (kind : b.formulation.kind = FormulationClass.ofScheme scheme) (reachable : b.kernel.Reachable)
    (ready : b.kernel.ready = true) (f : Frame)
    (still : ∀ plan, b.evaluator.plan = some plan → plan.transport = true → f.boost = 0) :
    let run := solve b
    let run' := solve { b with ensemble := f.ensemble b.ensemble }
    (∃ rows, run.2.pairs = some (.ofRows rows) ∧ run'.2.pairs = some (.ofRows (rows.map f.row))) ∧
      EndAlike run'.1.result run.1.result ∧
      (run.1.result = .ok () →
        ∀ k : Fin n, run'.2.ensemble.particles[k] = f.particle run.2.ensemble.particles[k]) := by
  intro run run'
  have sound := reachable.sound ready
  let rows := rowsAt b.kernel b.ensemble.positions
  have inputs : (rows.map f.row).map PairRow.input = (rows.map PairRow.input).map f.input := by
    rw [List.map_map, List.map_map]
    rfl
  obtain ⟨result, after⟩ : run.1.result = _ ∧ run.2 = _ := solve_eq_of_sound sound kind
  obtain ⟨result', after'⟩ : run'.1.result = _ ∧ run'.2 = _ := solve_eq_of_sound sound kind
  obtain ⟨alike, same⟩ := Evaluator.evaluate_frame f b.evaluator scheme b.ensemble
    (Evaluator.inputs_none rows) (inputs ▸ Evaluator.inputs_none (rows.map f.row))
    (distance_ne_zero_of_mem_rowsAt sound _) still
  rw [result, result', after, after', rowsAt_frame]
  exact ⟨⟨rows, rfl, rfl⟩, alike, same⟩

/-! ## A turned frame -/

/-- A frame with axes after a quarter turn, with another origin and in motion. -/
noncomputable def quarterTurn : Frame where
  axes := !![0, -1, 0; 1, 0, 0; 0, 0, 1]
  orthogonal := by
    refine (Matrix.mem_orthogonalGroup_iff (Fin 3) ℝ).mpr ?_
    ext i j
    fin_cases i <;> fin_cases j <;> simp [Matrix.mul_apply, Fin.sum_univ_three]
  shift := ⟨1, 2, 3⟩
  boost := ⟨0, 0, 1⟩

/-- A bench with two particles that slide along each other, without transport velocities. -/
noncomputable def slidingBench : Bench 2 ℝ :=
  ⟨.create .adami .null, Kernel.lineKernel, Evaluator.lineEvaluator, Evaluator.slidingPair, none⟩

theorem slidingBench_plan :
    slidingBench.evaluator.plan = some ⟨.off, false, .fused, Kernel.lineKernel.convectionFactor⟩ := rfl

theorem slidingBench_completes : (solve slidingBench).1.result = .ok () :=
  solve_completes_of_material (Kernel.sound_of_create Kernel.create_lineKernel)
    (show _ = FormulationClass.ofScheme .adami from rfl) slidingBench_plan
    Evaluator.slidingPair_material Evaluator.checkDiffusion_adami

theorem solve_inFrame_quarterTurn :
    let run := solve slidingBench
    let run' := solve { slidingBench with ensemble := quarterTurn.ensemble slidingBench.ensemble }
    run.1.result = .ok () ∧ run'.1.result = .ok () ∧
      ∀ k : Fin 2, run'.2.ensemble.particles[k] = quarterTurn.particle run.2.ensemble.particles[k] := by
  intro run run'
  obtain ⟨reachable, ready⟩ := Kernel.reachable_of_create Kernel.create_lineKernel
  have still : ∀ plan, slidingBench.evaluator.plan = some plan → plan.transport = true →
      quarterTurn.boost = 0 := by
    intro plan planned transport
    cases slidingBench_plan.symm.trans planned
    cases transport
  obtain ⟨-, alike, same⟩ := solve_inFrame slidingBench .adami rfl reachable ready quarterTurn still
  exact ⟨slidingBench_completes, alike.ok_iff.mpr slidingBench_completes, same slidingBench_completes⟩

end Bench

end ParticleMomentum
