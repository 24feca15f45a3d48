import ParticleMomentum.Evaluation.Bench
import ParticleMomentum.Proofs.Evaluation.Totality
import ParticleMomentum.Proofs.Neighbours.Search

/-!
# A search and an evaluation

The usual work on a bench is to find the pairs at the current positions and to evaluate the momentum
equation for them, with the slopes of the kernel throughout. Where the search finds the pairs, this is an
evaluation of the rows that were found.
-/

namespace ParticleMomentum

variable {n : Nat} {α : Type}

/-- The pair of a row, with its own slopes for modified slopes. -/
def PairRow.input (row : PairRow n α) : PairInput n α := ⟨row, row.slope⟩

theorem Evaluator.inputs_none (rows : List (PairRow n α)) :
    Evaluator.inputs rows ⟨none, none⟩ = .ok (rows.map PairRow.input) := by
  have lengths : ¬ ((rows.map (·.slope.i)).length ≠ rows.length ∨
      (rows.map (·.slope.j)).length ≠ rows.length) := by simp
  refine (if_neg lengths).trans (congrArg Except.ok ?_)
  have zipped : rows.zip ((rows.map (·.slope.i)).zip (rows.map (·.slope.j))) =
      rows.map fun row => (row, row.slope.i, row.slope.j) := by
    rw [List.zip_map', List.map_prod_left_eq_zip]
  rw [Option.getD_none, Option.getD_none, zipped, List.map_map]
  rfl

namespace Bench

variable [Arithmetic α] {b : Bench n α} {rows : List (PairRow n α)}

/-- Finds the pairs at the current positions and evaluates the momentum equation for them. -/
def solve : Work n α Unit := do
  let _ ← rebuild
  evaluate ⟨none, none⟩

/-- The slopes of a table of readable rows are those that an evaluation takes by itself. -/
theorem evaluate_ofRows (b : Bench n α) (rows : List (PairRow n α)) :
    let run := b.evaluator.evaluate b.formulation.kind rows ⟨none, none⟩ b.ensemble
    evaluate ⟨none, none⟩ { b with pairs := some (.ofRows rows) } =
      (run.1, { b with pairs := some (.ofRows rows), ensemble := run.2 }) := by
  intro run
  cases hp : b.evaluator.plan with
  | none =>
      have stopped : run = (Trail.fail .evaluatorNotSetUp, b.ensemble) := by
        change b.evaluator.evaluate b.formulation.kind rows ⟨none, none⟩ b.ensemble = _
        rw [Evaluator.evaluate, hp]
        rfl
      rw [stopped]
      simp only [evaluate, hp]
  | some plan =>
      simp only [evaluate, hp]
      rfl

/-- Where pairs are found, they are what is evaluated. -/
theorem solve_eq (found : (Neighbours.find b.kernel b.ensemble.positions).result = .ok rows) :
    let run := b.evaluator.evaluate b.formulation.kind rows ⟨none, none⟩ b.ensemble
    (solve b).1.result = run.1.result ∧
      (solve b).2 = { b with pairs := some (.ofRows rows), ensemble := run.2 } := by
  intro run
  have rebuilt : rebuild b = (⟨(Neighbours.find b.kernel b.ensemble.positions).items ++ [],
      .ok rows.length⟩, { b with pairs := some (.ofRows rows) }) := by
    rw [rebuild, Procedure.state_bind]
    rcases hf : Neighbours.find b.kernel b.ensemble.positions with ⟨items, result⟩
    rw [hf] at found
    cases found
    rw [Procedure.bind_of_ok (Procedure.liftM_apply _ _)]
    rfl
  rw [solve, Procedure.bind_of_ok rebuilt, evaluate_ofRows]
  exact ⟨rfl, rfl⟩

/-- Over exact numbers a sound kernel finds the pairs on every bench. -/
theorem solve_eq_of_sound {b : Bench n ℝ} {kind : FormulationClass} (sound : b.kernel.Sound)
    (hk : b.formulation.kind = kind) :
    let rows := Neighbours.rowsAt b.kernel b.ensemble.positions
    let run := b.evaluator.evaluate kind rows ⟨none, none⟩ b.ensemble
    (solve b).1.result = run.1.result ∧
      (solve b).2 = { b with pairs := some (.ofRows rows), ensemble := run.2 } := by
  subst hk
  exact solve_eq (Neighbours.find_eq_rowsAt sound b.ensemble.positions)

/-- On a bench with sound data this completes, unless a negative diffusion coefficient is found. -/
theorem solve_completes_of_material {b : Bench n ℝ} {scheme : Scheme} {plan : Plan ℝ}
    (sound : b.kernel.Sound) (kind : b.formulation.kind = FormulationClass.ofScheme scheme)
    (planned : b.evaluator.plan = some plan) (materials : ∀ k : Fin n, b.ensemble.particles[k].Material)
    (check : (Evaluator.checkDiffusion (FormulationClass.ofScheme scheme) plan.convectionFactor
      b.ensemble (Neighbours.rowsAt b.kernel b.ensemble.positions)).result = .ok ()) :
    (solve b).1.result = .ok () := by
  have h := Evaluator.completes_of_material planned materials
    (Neighbours.distance_ne_zero_of_mem_rowsAt sound _) (Evaluator.inputs_none _) check
  exact (solve_eq_of_sound sound kind).1.trans h.result

end Bench

end ParticleMomentum
