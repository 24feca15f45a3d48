import ParticleMomentum.Proofs.Evaluation.Ownership

/-!
# Decomposition of the domain

The particles of an ensemble may be divided among several evaluations, each of which owns some of them
and has the others as ghosts. An evaluation that owns only some particles leaves on these, bit for bit,
what an evaluation that owns all particles leaves on them, and it does not touch the ghosts; pairs between
ghosts may be left out. Nothing is asked of the arithmetic: the vectors that a particle receives are the
same, in the same order.
-/

namespace ParticleMomentum

open Trail (KeptBy)

variable {n : Nat} {α : Type}

/-- A particle of the pair is owned. -/
def PairRow.touches (owned : Fin n → Bool) (row : PairRow n α) : Bool :=
  owned row.particles.i || owned row.particles.j

namespace Ensemble

/-! ## Ensembles under other flags -/

/-- The ensemble with other flags of ownership. -/
def owning (e : Ensemble n α) (owned : Fin n → Bool) : Ensemble n α :=
  e.mapParticles fun k q => { q with owned := owned k }

/-- The ensemble with some of its particles replaced by those of another one. -/
def splice (base other : Ensemble n α) (chosen : Fin n → Bool) : Ensemble n α :=
  base.mapParticles fun k q => if chosen k then other.particles[k] else q

theorem splice_particle (base other : Ensemble n α) (chosen : Fin n → Bool) (k : Fin n) :
    (base.splice other chosen).particles[k] =
      if chosen k then other.particles[k] else base.particles[k] :=
  mapParticles_particle _ _ _

theorem owning_sides (e : Ensemble n α) (owned : Fin n → Bool) (row : PairRow n α) :
    (e.owning owned).sides row = (e.sides row).owning (row.particles.map owned) := by
  rw [sides, owning, mapParticles_particle, mapParticles_particle]
  rfl

/-- The flags of ownership stay as they are where all particles are spliced in. -/
theorem splice_owning (e : Ensemble n α) (owned : Fin n → Bool) :
    (e.owning owned).splice (e.owning fun _ => true) owned = e.owning owned := by
  refine ext_particles fun k => ?_
  simp only [splice_particle, owning, mapParticles_particle]
  split
  · next h => rw [h]
  · rfl

/-! ## Sweeps under other flags -/

variable [Arithmetic α] {owned : Fin n → Bool} {row : PairRow n α}

/-- A contribution to a particle shows exactly where that particle has been spliced in. -/
theorem splice_contribute (base e : Ensemble n α) (c : Contribution α) :
    base.splice (e.contribute row c) owned =
      if c.isWanted (row.particles.map owned) then (base.splice e owned).contribute row c
      else base.splice e owned := by
  have flag : c.isWanted (row.particles.map owned) = owned (row.particles.get c.side) := by
    rw [Contribution.isWanted]
    cases c.side <;> rfl
  rw [flag]
  cases own : owned (row.particles.get c.side)
  · refine ext_particles fun k => ?_
    rw [if_neg Bool.false_ne_true, splice_particle, splice_particle, contribute_particle]
    by_cases hk : row.particles.get c.side = k
    · rw [← hk, own]
      rfl
    · rw [if_neg hk]
  · refine ext_particles fun k => ?_
    rw [if_pos rfl, splice_particle, contribute_particle, contribute_particle, splice_particle]
    by_cases hk : row.particles.get c.side = k
    · rw [if_pos hk, if_pos hk, ← hk, own]
      rfl
    · rw [if_neg hk, if_neg hk]

theorem splice_foldl_contribute (base e : Ensemble n α) (items : List (Contribution α)) :
    (items.filter (Contribution.isWanted (row.particles.map owned))).foldl (contribute row)
      (base.splice e owned) = base.splice (items.foldl (contribute row) e) owned := by
  induction items generalizing e with
  | nil => rfl
  | cons c items ih =>
      rw [List.foldl_cons, ← ih, splice_contribute, List.filter_cons]
      split <;> rfl

/-- A sweep that meets no fault with all particles owned meets none with other flags, and passes the owned
particles the same contributions. Pairs without an owned particle may be left out. -/
theorem sweep_splice {contributions contributions' : PairInput n α → Contributions α Unit}
    {chosen : PairInput n α → Bool} {inputs : List (PairInput n α)} {e : Ensemble n α}
    (base : Ensemble n α)
    (pairs : ∀ input : PairInput n α, KeptBy
      (Contribution.isWanted (input.row.particles.map owned)) (contributions input)
      (contributions' input))
    (covers : ∀ input, input.row.touches owned = true → chosen input = true)
    (h : (e.sweep contributions inputs).2 = .ok ()) :
    (base.splice e owned).sweep contributions' (inputs.filter chosen) =
      (base.splice (e.sweep contributions inputs).1 owned, .ok ()) := by
  induction inputs generalizing e with
  | nil => rfl
  | cons input rest ih =>
      obtain ⟨first, others⟩ := sweep_cons_eq_ok h
      rw [others] at h ⊢
      have received : _ =
          base.splice ((contributions input).items.foldl (contribute input.row) e) owned :=
        splice_foldl_contribute base e _
      rw [List.filter_cons]
      split
      · rw [sweep_cons, pairs input () first, received]
        exact ih h
      · next dropped =>
        have unwanted : (contributions input).items.filter
            (Contribution.isWanted (input.row.particles.map owned)) = [] := by
          have untouched : ((input.row.particles.map owned).i ||
              (input.row.particles.map owned).j) = false :=
            Bool.eq_false_iff.mpr fun touched => dropped (covers input touched)
          refine List.filter_eq_nil_iff.mpr fun c _ => ?_
          rw [Contribution.isWanted_eq_false untouched]
          exact Bool.false_ne_true
        rw [unwanted] at received
        rw [← ih h, ← received]
        rfl

end Ensemble

/-! ## Fewer pairs -/

namespace PairRow

/-- The slopes of the chosen pairs. -/
def restrict (chosen : PairRow n α → Bool) (rows : List (PairRow n α)) (slopes : List α) : List α :=
  ((rows.zip slopes).filter fun x => chosen x.1).map (·.2)

variable {chosen : PairRow n α → Bool}

theorem restrict_cons (row : PairRow n α) (rows : List (PairRow n α)) (x : α) (slopes : List α) :
    restrict chosen (row :: rows) (x :: slopes) =
      if chosen row then x :: restrict chosen rows slopes else restrict chosen rows slopes := by
  rw [restrict, List.zip_cons_cons, List.filter_cons]
  split <;> rfl

theorem restrict_map (rows : List (PairRow n α)) (slope : PairRow n α → α) :
    restrict chosen rows (rows.map slope) = (rows.filter chosen).map slope := by
  induction rows with
  | nil => rfl
  | cons row rows ih =>
      rw [List.map_cons, restrict_cons, ih, List.filter_cons]
      split <;> rfl

theorem length_restrict {rows : List (PairRow n α)} {slopes : List α}
    (fits : slopes.length = rows.length) :
    (restrict chosen rows slopes).length = (rows.filter chosen).length := by
  induction rows generalizing slopes with
  | nil => rfl
  | cons row rows ih =>
      obtain _ | ⟨x, slopes⟩ := slopes
      · cases fits
      · rw [restrict_cons, List.filter_cons]
        split
        · exact congrArg (· + 1) (ih (Nat.succ.inj fits))
        · exact ih (Nat.succ.inj fits)

theorem zip_restrict {rows : List (PairRow n α)} {slopesI slopesJ : List α}
    (fitsI : slopesI.length = rows.length) (fitsJ : slopesJ.length = rows.length) :
    (rows.filter chosen).zip ((restrict chosen rows slopesI).zip (restrict chosen rows slopesJ)) =
      (rows.zip (slopesI.zip slopesJ)).filter fun x => chosen x.1 := by
  induction rows generalizing slopesI slopesJ with
  | nil => rfl
  | cons row rows ih =>
      obtain _ | ⟨x, slopesI⟩ := slopesI
      · cases fitsI
      obtain _ | ⟨y, slopesJ⟩ := slopesJ
      · cases fitsJ
      have rest := ih (Nat.succ.inj fitsI) (Nat.succ.inj fitsJ)
      rw [restrict_cons, restrict_cons, List.zip_cons_cons, List.zip_cons_cons, List.filter_cons,
        List.filter_cons]
      split
      · rw [List.zip_cons_cons, List.zip_cons_cons, rest]
      · exact rest

end PairRow

theorem Evaluator.inputs_restrict {rows : List (PairRow n α)} {modified : Sides (Option (List α))}
    {inputs : List (PairInput n α)} (h : Evaluator.inputs rows modified = .ok inputs)
    (chosen : PairRow n α → Bool) :
    Evaluator.inputs (rows.filter chosen) (modified.map (·.map (PairRow.restrict chosen rows))) =
      .ok (inputs.filter fun input => chosen input.row) := by
  have default (slopes : Option (List α)) (slope : PairRow n α → α) :
      (slopes.map (PairRow.restrict chosen rows)).getD ((rows.filter chosen).map slope) =
        PairRow.restrict chosen rows (slopes.getD (rows.map slope)) := by
    cases slopes with
    | none => exact (PairRow.restrict_map rows slope).symm
    | some slopes => rfl
  rw [Evaluator.inputs] at h ⊢
  simp only [Sides.map, default]
  split at h
  · cases h
  · next fits =>
    rw [not_or, Decidable.not_not, Decidable.not_not] at fits
    cases h
    rw [PairRow.length_restrict fits.1, PairRow.length_restrict fits.2,
      PairRow.zip_restrict fits.1 fits.2, List.filter_map]
    rw [if_neg (by simp)]
    rfl

/-! ## Evaluations -/

namespace Evaluator

variable [Arithmetic α] {kind : FormulationClass} {plan : Plan α} {e : Ensemble n α}

variable (kind plan e) in
theorem contributions_kept (rule : DivisionRule) (owned : Fin n → Bool) (input : PairInput n α) :
    KeptBy (Contribution.isWanted (input.row.particles.map owned))
      (contributions kind plan rule (e.owning fun _ => true) input)
      (contributions kind plan rule (e.owning owned) input) := by
  rw [contributions, contributions, Ensemble.owning_sides, Ensemble.owning_sides]
  cases plan.backend with
  | fused => exact Fused.pair_kept _ _ _ _ _
  | stepwise => exact Stepwise.pair_kept _ _ _ _

/-- The check of diffusion coefficients does not look at flags of ownership, and passes fewer pairs where
it passes more. -/
theorem check_owning {k : α} {owned owned' : Fin n → Bool} {rows rows' : List (PairRow n α)}
    (fewer : ∀ row ∈ rows', row ∈ rows)
    (check : (checkDiffusion kind k (e.owning owned) rows).result = .ok ()) :
    (checkDiffusion kind k (e.owning owned') rows').result = .ok () := by
  rw [checkDiffusion_result_eq_ok_iff] at check ⊢
  intro checks row hmem
  have passed := check checks row (fewer row hmem)
  rw [Ensemble.owning_sides] at passed ⊢
  exact passed

variable {ev : Evaluator α} {rows rows' : List (PairRow n α)}
variable {modified modified' : Sides (Option (List α))} {inputs : List (PairInput n α)}
variable {owned : Fin n → Bool}

/-- An evaluation that completes with all particles owned completes with other flags too, and splices its
outcome into the ghosts. It may leave out pairs without an owned particle. -/
theorem Completes.evaluate_owning
    (h : ev.Completes kind plan rows modified (e.owning fun _ => true) inputs)
    (chosen : PairRow n α → Bool)
    (covers : ∀ row, row.touches owned = true → chosen row = true)
    (fewer : ∀ row ∈ rows', row ∈ rows)
    (fits : Evaluator.inputs rows' modified' = .ok (inputs.filter fun input => chosen input.row)) :
    ev.evaluate kind rows' modified' (e.owning owned) =
      (⟨[.evaluated], .ok ()⟩,
        (e.owning owned).splice (ev.evaluate kind rows modified (e.owning fun _ => true)).2 owned) := by
  have swept := Ensemble.sweep_splice (e.owning owned)
    (contributions_kept kind plan e ev.fusedRule owned) (fun input => covers input.row) h.sweep
  rw [Ensemble.splice_owning] at swept
  have h' : ev.Completes kind plan rows' modified' (e.owning owned) _ :=
    ⟨h.plan_eq, fits, check_owning fewer h.check, congrArg Prod.snd swept⟩
  rw [h'.evaluate_eq, h.evaluate_eq, swept]

/-- The domain may be decomposed. If an evaluation completes with all particles owned, then so does the
evaluation with any part of them owned, on all pairs and on just those pairs that touch an owned particle.
Both leave the owned particles as the first evaluation does, and the other particles as they were. -/
theorem evaluate_decomposes (ev : Evaluator α) (kind : FormulationClass) (rows : List (PairRow n α))
    (modified : Sides (Option (List α))) (e : Ensemble n α) (owned : Fin n → Bool)
    (completes : (ev.evaluate kind rows modified (e.owning fun _ => true)).1.result = .ok ()) :
    let whole := ev.evaluate kind rows modified (e.owning fun _ => true)
    let allPairs := ev.evaluate kind rows modified (e.owning owned)
    let ownPairs := ev.evaluate kind (rows.filter (·.touches owned))
      (modified.map (·.map (PairRow.restrict (·.touches owned) rows))) (e.owning owned)
    allPairs.1.result = .ok () ∧ ownPairs.1.result = .ok () ∧
      ∀ k : Fin n,
        (owned k = true → allPairs.2.particles[k] = whole.2.particles[k] ∧
          ownPairs.2.particles[k] = whole.2.particles[k]) ∧
        (owned k = false → allPairs.2.particles[k] = (e.owning owned).particles[k] ∧
          ownPairs.2.particles[k] = (e.owning owned).particles[k]) := by
  intro whole allPairs ownPairs
  obtain ⟨plan, planned⟩ := exists_plan_of_evaluate_eq_ok completes
  obtain ⟨inputs, h⟩ := completes_of_evaluate_eq_ok planned completes
  have onAll : allPairs = (⟨[.evaluated], .ok ()⟩, (e.owning owned).splice whole.2 owned) := by
    refine h.evaluate_owning (fun _ => true) (fun _ _ => rfl) (fun _ hmem => hmem) ?_
    rw [List.filter_eq_self.mpr fun _ _ => rfl]
    exact h.inputs_eq
  have onOwn : ownPairs = (⟨[.evaluated], .ok ()⟩, (e.owning owned).splice whole.2 owned) :=
    h.evaluate_owning (·.touches owned) (fun _ touched => touched)
      (fun _ hmem => (List.mem_filter.mp hmem).1) (inputs_restrict h.inputs_eq _)
  rw [onAll, onOwn]
  refine ⟨rfl, rfl, fun k => ⟨fun own => ?_, fun ghost => ?_⟩⟩
  · rw [Ensemble.splice_particle, if_pos own]
    exact ⟨rfl, rfl⟩
  · rw [Ensemble.splice_particle, if_neg (Bool.eq_false_iff.mp ghost)]
    exact ⟨rfl, rfl⟩

theorem evaluate_decomposes_viscousPair :
    (allTerms.evaluate .adami [viscousRow] ⟨none, none⟩ (viscousPair.owning fun _ => true)).1.result =
      .ok () ∧
    (allTerms.evaluate .adami [viscousRow] ⟨none, none⟩ (viscousPair.owning (· == 0))).2.particles[0] =
      (allTerms.evaluate .adami [viscousRow] ⟨none, none⟩
        (viscousPair.owning fun _ => true)).2.particles[0] ∧
    (allTerms.evaluate .adami [viscousRow] ⟨none, none⟩ (viscousPair.owning (· == 0))).2.particles[1] =
      (viscousPair.owning (· == 0)).particles[1] :=
  have completes : (allTerms.evaluate .adami [viscousRow] ⟨none, none⟩
      (viscousPair.owning fun _ => true)).1.result = .ok () := rfl
  have decomposed := (evaluate_decomposes allTerms .adami [viscousRow] ⟨none, none⟩ viscousPair
    (· == 0) completes).2.2
  ⟨completes, ((decomposed 0).1 rfl).1, ((decomposed 1).2 rfl).1⟩

end Evaluator

end ParticleMomentum
