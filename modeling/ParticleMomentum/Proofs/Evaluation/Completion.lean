import ParticleMomentum.Evaluation.Evaluator
import ParticleMomentum.Proofs.Particles
import ParticleMomentum.Proofs.Trail

/-!
# Evaluations that complete

An evaluation completes exactly if its modified slopes fit the pairs, no pair has a negative diffusion
coefficient where the formulation checks for one, and the sweep through the pairs meets no fault. This
module states that once, so that nothing else has to open `Evaluator.evaluate`.
-/

namespace ParticleMomentum

variable {n : Nat} {α : Type} [Arithmetic α]

namespace Ensemble

variable {contributions : PairInput n α → Contributions α Unit}

@[simp] theorem sweep_nil (e : Ensemble n α) : e.sweep contributions [] = (e, .ok ()) := rfl

theorem sweep_cons (e : Ensemble n α) (input : PairInput n α) (rest : List (PairInput n α)) :
    e.sweep contributions (input :: rest) =
      match (contributions input).result with
      | .ok () => ((contributions input).items.foldl (contribute input.row) e).sweep contributions rest
      | .error f => ((contributions input).items.foldl (contribute input.row) e, .error f) := rfl

/-- A sweep that meets no fault has added the contributions of its first pair and gone on. -/
theorem sweep_cons_eq_ok {e : Ensemble n α} {input : PairInput n α} {rest : List (PairInput n α)}
    (h : (e.sweep contributions (input :: rest)).2 = .ok ()) :
    (contributions input).result = .ok () ∧
      e.sweep contributions (input :: rest) =
        ((contributions input).items.foldl (contribute input.row) e).sweep contributions rest := by
  rw [sweep_cons] at h ⊢
  rcases hr : (contributions input).result with f | ⟨⟩
  · rw [hr] at h
    cases h
  · exact ⟨rfl, rfl⟩

/-- A sweep meets no fault exactly if no pair does. -/
theorem sweep_eq_ok_iff {inputs : List (PairInput n α)} {e : Ensemble n α} :
    (e.sweep contributions inputs).2 = .ok () ↔
      ∀ input ∈ inputs, (contributions input).result = .ok () := by
  induction inputs generalizing e with
  | nil => exact ⟨fun _ _ hmem => absurd hmem List.not_mem_nil, fun _ => rfl⟩
  | cons input rest ih =>
      rw [List.forall_mem_cons, sweep_cons]
      rcases hr : (contributions input).result with f | ⟨⟩
      · refine ⟨fun h => ?_, fun h => ?_⟩
        · cases h
        · cases h.1
      · exact ih.trans ⟨fun h => ⟨rfl, h⟩, fun h => h.2⟩

/-- A sweep that meets a fault has gone through the pairs in front of the one that fails, and has added what
that one contributed up to its fault. -/
theorem sweep_eq_error_iff {f : Fault α} {inputs : List (PairInput n α)} {e e' : Ensemble n α} :
    e.sweep contributions inputs = (e', .error f) ↔
      ∃ before input after reached, inputs = before ++ input :: after ∧
        e.sweep contributions before = (reached, .ok ()) ∧ (contributions input).result = .error f ∧
        e' = (contributions input).items.foldl (contribute input.row) reached := by
  induction inputs generalizing e with
  | nil =>
      refine ⟨nofun, ?_⟩
      rintro ⟨_ | ⟨_, _⟩, _, _, _, ⟨⟩, _⟩
  | cons first rest ih =>
      rcases hr : (contributions first).result with g | ⟨⟩
      · rw [sweep_cons, hr]
        constructor
        · rintro ⟨⟩
          exact ⟨[], first, rest, e, rfl, rfl, hr, rfl⟩
        · rintro ⟨before, input, after, reached, split, swept, fails, left⟩
          rcases List.cons_eq_append_iff.mp split with ⟨rfl, split⟩ | ⟨before, rfl, -⟩
          · cases split
            cases swept
            cases hr.symm.trans fails
            rw [left]
          · have first_ok := (sweep_cons_eq_ok (congrArg Prod.snd swept)).1
            cases hr.symm.trans first_ok
      · rw [sweep_cons, hr, ih]
        constructor
        · rintro ⟨before, input, after, reached, rfl, swept, fails, left⟩
          refine ⟨first :: before, input, after, reached, rfl, ?_, fails, left⟩
          rw [sweep_cons, hr]
          exact swept
        · rintro ⟨before, input, after, reached, split, swept, fails, left⟩
          rcases List.cons_eq_append_iff.mp split with ⟨rfl, split⟩ | ⟨before, rfl, rfl⟩
          · cases split
            cases hr.symm.trans fails
          · rw [sweep_cons, hr] at swept
            exact ⟨before, input, after, reached, rfl, swept, fails, left⟩

/-- A sweep depends only on what its pairs contribute. -/
theorem sweep_congr {contributions' : PairInput n α → Contributions α Unit}
    {inputs : List (PairInput n α)} {e : Ensemble n α}
    (pairs : ∀ input ∈ inputs, contributions input = contributions' input) :
    e.sweep contributions inputs = e.sweep contributions' inputs := by
  induction inputs generalizing e with
  | nil => rfl
  | cons input rest ih =>
      obtain ⟨first, others⟩ := List.forall_mem_cons.mp pairs
      rw [sweep_cons, sweep_cons, first]
      rcases (contributions' input).result with f | ⟨⟩
      · rfl
      · exact ih others

/-- Where each pair is refined, so is a sweep that meets no fault. -/
theorem sweep_eq_of_refinedBy {contributions' : PairInput n α → Contributions α Unit}
    {inputs : List (PairInput n α)} {e : Ensemble n α}
    (pairs : ∀ input ∈ inputs, (contributions input).RefinedBy (contributions' input))
    (h : (e.sweep contributions inputs).2 = .ok ()) :
    e.sweep contributions' inputs = e.sweep contributions inputs := by
  induction inputs generalizing e with
  | nil => rfl
  | cons input rest ih =>
      obtain ⟨first, others⟩ := List.forall_mem_cons.mp pairs
      obtain ⟨hr, hs⟩ := sweep_cons_eq_ok h
      have same : contributions' input = contributions input := first () hr
      rw [hs] at h
      rw [hs, sweep_cons, same, hr]
      exact ih others h

end Ensemble

namespace Evaluator

variable {kind : FormulationClass} {k : α} {e : Ensemble n α}

/-- A pair that passes the check has shear coefficients without a negative diffusion. -/
theorem not_diffusion_neg {p : Sides (Particle α)} {shear : Monaghan.ShearCoefficients α}
    (check : negativeDiffusion? k p = .ok none)
    (hs : Monaghan.shearCoefficients k (p.map (·.viscosity)) (p.map (·.bulkViscosity)) = .ok shear) :
    ¬ shear.diffusion < 0.0 := by
  intro hneg
  simp [negativeDiffusion?, hs, hneg, bind, Except.bind, pure, Except.pure] at check

theorem firstNegativeDiffusion?_eq_none_iff {rows : List (PairRow n α)} :
    firstNegativeDiffusion? k e rows = .ok none ↔
      ∀ row ∈ rows, negativeDiffusion? k (e.sides row) = .ok none := by
  induction rows with
  | nil => exact ⟨fun _ _ hmem => absurd hmem List.not_mem_nil, fun _ => rfl⟩
  | cons row rest ih =>
      rw [List.forall_mem_cons, ← ih]
      rcases hr : negativeDiffusion? k (e.sides row) with f | _ | report <;>
        simp [firstNegativeDiffusion?, hr, bind, Except.bind, pure, Except.pure]

/-- The check of diffusion coefficients passes if it is not called for, or no pair has a negative one. -/
theorem checkDiffusion_result_eq_ok_iff {rows : List (PairRow n α)} :
    (checkDiffusion kind k e rows).result = .ok () ↔
      (kind.checksDiffusion = true →
        ∀ row ∈ rows, negativeDiffusion? k (e.sides row) = .ok none) := by
  rw [← firstNegativeDiffusion?_eq_none_iff, checkDiffusion]
  cases kind.checksDiffusion
  · simp
  · rcases firstNegativeDiffusion? k e rows with f | _ | ⟨row, report⟩ <;> simp

/-- The Adami scheme has no diffusion coefficient to check. -/
theorem checkDiffusion_adami {rows : List (PairRow n α)} :
    (checkDiffusion .adami k e rows).result = .ok () :=
  checkDiffusion_result_eq_ok_iff.mpr nofun

/-- A check that passes says nothing. -/
theorem checkDiffusion_eq_of_ok {rows : List (PairRow n α)}
    (h : (checkDiffusion kind k e rows).result = .ok ()) :
    checkDiffusion kind k e rows = ⟨[], .ok ()⟩ := by
  revert h
  rw [checkDiffusion]
  cases kind.checksDiffusion
  · simp
  · rcases firstNegativeDiffusion? k e rows with f | _ | ⟨row, report⟩ <;> simp

omit [Arithmetic α] in
/-- The inputs of an evaluation are its rows, each with modified slopes. -/
theorem map_row_inputs {rows : List (PairRow n α)} {modified : Sides (Option (List α))}
    {inputs : List (PairInput n α)} (h : Evaluator.inputs rows modified = .ok inputs) :
    inputs.map (·.row) = rows := by
  rw [Evaluator.inputs] at h
  split at h
  · cases h
  · next fits =>
    rw [not_or, Decidable.not_not, Decidable.not_not] at fits
    cases h
    rw [List.map_map]
    refine List.map_fst_zip (Nat.le_of_eq ?_)
    rw [List.length_zip, fits.1, fits.2, Nat.min_self]

omit [Arithmetic α] in
theorem row_mem_of_mem_inputs {rows : List (PairRow n α)} {modified : Sides (Option (List α))}
    {inputs : List (PairInput n α)} (h : Evaluator.inputs rows modified = .ok inputs) :
    ∀ input ∈ inputs, input.row ∈ rows := by
  intro input hmem
  rw [← map_row_inputs h]
  exact List.mem_map_of_mem hmem

/-- What it takes for an evaluation by a plan to complete, with `inputs` as its pairs. -/
structure Completes (ev : Evaluator α) (kind : FormulationClass) (plan : Plan α)
    (rows : List (PairRow n α)) (modified : Sides (Option (List α))) (e : Ensemble n α)
    (inputs : List (PairInput n α)) : Prop where
  plan_eq : ev.plan = some plan
  inputs_eq : Evaluator.inputs rows modified = .ok inputs
  check : (checkDiffusion kind plan.convectionFactor e rows).result = .ok ()
  sweep : (e.sweep (contributions kind plan ev.fusedRule e) inputs).2 = .ok ()

variable {ev : Evaluator α} {plan : Plan α} {rows : List (PairRow n α)}
variable {modified : Sides (Option (List α))} {inputs : List (PairInput n α)}

/-- An evaluation that completes leaves the ensemble of its sweep. -/
theorem Completes.evaluate_eq (h : ev.Completes kind plan rows modified e inputs) :
    ev.evaluate kind rows modified e =
      (⟨[.evaluated], .ok ()⟩, (e.sweep (contributions kind plan ev.fusedRule e) inputs).1) := by
  rw [evaluate, h.plan_eq]
  simp only [h.inputs_eq]
  rw [Procedure.bind_of_ok (Procedure.liftM_except_apply _ _), Procedure.state_bind,
    checkDiffusion_eq_of_ok h.check, Procedure.bind_of_ok (Procedure.liftM_apply _ _),
    Procedure.bind_of_ok (by rw [Procedure.ofChange_apply, h.sweep])]
  rfl

theorem Completes.result (h : ev.Completes kind plan rows modified e inputs) :
    (ev.evaluate kind rows modified e).1.result = .ok () :=
  congrArg (·.1.result) h.evaluate_eq

/-- An evaluation that is refused by the check of diffusion coefficients leaves the ensemble alone. -/
theorem evaluate_eq_of_refused {l : List (Notice α)} {f : Fault α} (planned : ev.plan = some plan)
    (fits : Evaluator.inputs rows modified = .ok inputs)
    (refused : checkDiffusion kind plan.convectionFactor e rows = ⟨l, .error f⟩) :
    ev.evaluate kind rows modified e = (⟨l, .error f⟩, e) := by
  rw [evaluate, planned]
  simp only [fits]
  rw [Procedure.bind_of_ok (Procedure.liftM_except_apply _ _), Procedure.state_bind, refused,
    Procedure.bind_of_error (Procedure.liftM_apply _ _)]
  rfl

/-- An evaluation that passes the check of diffusion coefficients leaves what its sweep leaves, and ends as
that does. -/
theorem evaluate_of_checked (planned : ev.plan = some plan)
    (fits : Evaluator.inputs rows modified = .ok inputs)
    (check : (checkDiffusion kind plan.convectionFactor e rows).result = .ok ()) :
    ev.evaluate kind rows modified e =
      match e.sweep (contributions kind plan ev.fusedRule e) inputs with
      | (e', .ok ()) => (⟨[.evaluated], .ok ()⟩, e')
      | (e', .error f) => (⟨[], .error f⟩, e') := by
  rcases hs : e.sweep (contributions kind plan ev.fusedRule e) inputs with ⟨e', f | ⟨⟩⟩
  · rw [evaluate, planned]
    simp only [fits]
    rw [Procedure.bind_of_ok (Procedure.liftM_except_apply _ _), Procedure.state_bind,
      checkDiffusion_eq_of_ok check, Procedure.bind_of_ok (Procedure.liftM_apply _ _),
      Procedure.bind_of_error (by rw [Procedure.ofChange_apply, hs])]
    rfl
  · rw [Completes.evaluate_eq ⟨planned, fits, check, congrArg Prod.snd hs⟩, hs]

theorem evaluate_result_of_checked (planned : ev.plan = some plan)
    (fits : Evaluator.inputs rows modified = .ok inputs)
    (check : (checkDiffusion kind plan.convectionFactor e rows).result = .ok ()) :
    (ev.evaluate kind rows modified e).1.result =
      (e.sweep (contributions kind plan ev.fusedRule e) inputs).2 := by
  rw [evaluate_of_checked planned fits check]
  rcases e.sweep (contributions kind plan ev.fusedRule e) inputs with ⟨e', f | ⟨⟩⟩ <;> rfl

/-- An evaluation that gets modified slopes of another number than its pairs leaves the ensemble alone. -/
theorem evaluate_of_unfit {f : Fault α} (planned : ev.plan = some plan)
    (unfit : Evaluator.inputs rows modified = .error f) :
    ev.evaluate kind rows modified e = (⟨[], .error f⟩, e) := by
  rw [evaluate, planned]
  simp only [unfit]
  rw [Procedure.bind_of_error (Procedure.liftM_except_apply _ _)]

/-- An evaluation leaves the ensemble alone, or leaves what a sweep through its pairs leaves. -/
theorem evaluate_leaves (planned : ev.plan = some plan) :
    (ev.evaluate kind rows modified e).2 = e ∨
      ∃ inputs, (ev.evaluate kind rows modified e).2 =
        (e.sweep (contributions kind plan ev.fusedRule e) inputs).1 := by
  rcases fits : Evaluator.inputs rows modified with f | inputs
  · left
    rw [evaluate_of_unfit planned fits]
  rcases check : checkDiffusion kind plan.convectionFactor e rows with ⟨l, f | ⟨⟩⟩
  · left
    rw [evaluate_eq_of_refused planned fits check]
  · right
    refine ⟨inputs, ?_⟩
    rw [evaluate_of_checked planned fits (congrArg Trail.result check)]
    rcases e.sweep (contributions kind plan ev.fusedRule e) inputs with ⟨e', f | ⟨⟩⟩ <;> rfl

/-- An evaluation that completes has a plan. -/
theorem exists_plan_of_evaluate_eq_ok (h : (ev.evaluate kind rows modified e).1.result = .ok ()) :
    ∃ plan, ev.plan = some plan := by
  rcases hp : ev.plan with _ | plan
  · rw [evaluate, hp] at h
    cases h
  · exact ⟨plan, rfl⟩

theorem completes_of_evaluate_eq_ok (hp : ev.plan = some plan)
    (h : (ev.evaluate kind rows modified e).1.result = .ok ()) :
    ∃ inputs, ev.Completes kind plan rows modified e inputs := by
  rw [evaluate, hp] at h
  obtain ⟨inputs, hi, h, -⟩ := Procedure.bind_result_eq_ok h
  rw [Procedure.state_bind] at h
  obtain ⟨⟨⟩, hc, h, -⟩ := Procedure.bind_result_eq_ok h
  obtain ⟨⟨⟩, hs, -, -⟩ := Procedure.bind_result_eq_ok h
  exact ⟨inputs, hp, hi, hc, hs⟩

end Evaluator

end ParticleMomentum
