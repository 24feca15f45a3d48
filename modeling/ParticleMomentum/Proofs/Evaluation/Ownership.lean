import ParticleMomentum.Proofs.Evaluation.Backends

/-!
# Ownership of a pair

What a pair contributes to an owned particle does not depend on whether the other particle is owned. Both
loops are compared with themselves under different flags: next to the contributions of a pair whose
particles are both owned, those under other flags are the ones on the owned sides, in the same order. A
flag may only save work, so no fault appears that was not there before.
-/

namespace ParticleMomentum

open Trail (Emits KeptBy)

variable {n : Nat} {α : Type}

/-- A deposit on a side that is wanted. -/
def Deposit.isWanted (wanted : Sides Bool) (d : Deposit α) : Bool := wanted.get d.side

/-- A contribution to a side that is wanted. -/
def Contribution.isWanted (wanted : Sides Bool) (c : Contribution α) : Bool := wanted.get c.side

namespace Deposits

variable {wanted : Sides Bool}

theorem make_emits (side : Side) (amount : Vector3 α) :
    (make side amount).Emits (Deposit.isWanted wanted · = wanted.get side) :=
  Emits.emit rfl

theorem onSides_kept (onI onJ : Vector3 α) :
    KeptBy (Deposit.isWanted wanted) (onSides (.both true) onI onJ) (onSides wanted onI onJ) :=
  (KeptBy.guarded_of_emits (make_emits .i onI)).bind fun _ =>
    KeptBy.guarded_of_emits (make_emits .j onJ)

/-- What a term keeps as deposits it keeps as contributions. -/
theorem into_kept {target : Target} {t u : Deposits α Unit}
    (h : KeptBy (Deposit.isWanted wanted) t u) :
    KeptBy (Contribution.isWanted wanted) (t.into target) (u.into target) := by
  intro b hb
  rw [h b hb, into, into, List.filter_map]
  rfl

theorem into_emits {target : Target} {side : Side} {t : Deposits α Unit}
    (h : t.Emits (Deposit.isWanted wanted · = wanted.get side)) :
    (t.into target).Emits (Contribution.isWanted wanted · = wanted.get side) := by
  intro c hc
  obtain ⟨d, hd, rfl⟩ := List.mem_map.mp hc
  exact h d hd

end Deposits

variable [Arithmetic α] {wanted : Sides Bool}

theorem Monaghan.shearOn_emits (side : Side) (c : α) (shear : ShearCoefficients α)
    (density : Sides α) (distance : α) (relativeVelocity direction : Vector3 α) :
    (shearOn side c shear density distance relativeVelocity direction).Emits
      (Deposit.isWanted wanted · = wanted.get side) :=
  (Emits.silent _).bind fun _ => (Deposits.make_emits side _).bind fun _ => Deposits.make_emits side _

namespace Scheme

variable (scheme : Scheme)

theorem pressureGradient_kept (density pressure coefficient : Sides α) (direction : Vector3 α) :
    KeptBy (Deposit.isWanted wanted)
      (scheme.pressureGradient density pressure coefficient direction (.both true))
      (scheme.pressureGradient density pressure coefficient direction wanted) := by
  cases scheme
  all_goals exact (KeptBy.silent _).bind fun _ => Deposits.onSides_kept _ _

theorem shearForces_kept (rule : DivisionRule) (density : Sides α) (velocity : Sides (Vector3 α))
    (k : α) (viscosity bulkViscosity : Sides α) (distance : α) (coefficient : Sides α)
    (direction : Vector3 α) :
    KeptBy (Deposit.isWanted wanted)
      (scheme.shearForces rule density velocity k viscosity bulkViscosity distance coefficient
        direction (.both true))
      (scheme.shearForces rule density velocity k viscosity bulkViscosity distance coefficient
        direction wanted) := by
  cases scheme with
  | monaghan =>
      refine (KeptBy.silent _).bind fun shear => KeptBy.ite _ (KeptBy.silent _) ?_
      refine (KeptBy.guarded_of_emits ?_).bind fun _ => KeptBy.guarded_of_emits ?_
      all_goals exact Monaghan.shearOn_emits _ _ _ _ _ _ _
  | adami =>
      refine KeptBy.ite _ ?_ (KeptBy.silent _)
      exact (KeptBy.silent _).bind fun _ => (KeptBy.silent _).bind fun _ =>
        Deposits.onSides_kept _ _

theorem standardBackground_kept (density background coefficient : Sides α) (direction : Vector3 α) :
    KeptBy (Deposit.isWanted wanted)
      (scheme.standardBackground density background coefficient direction (.both true))
      (scheme.standardBackground density background coefficient direction wanted) := by
  cases scheme with
  | monaghan => exact (KeptBy.silent _).bind fun _ => Deposits.onSides_kept _ _
  | adami => exact Deposits.onSides_kept _ _

theorem generalizedBackground_kept (density mass background slope : Sides α)
    (direction : Vector3 α) :
    KeptBy (Deposit.isWanted wanted)
      (scheme.generalizedBackground density mass background slope direction (.both true))
      (scheme.generalizedBackground density mass background slope direction wanted) := by
  cases scheme
  all_goals
    refine (KeptBy.guarded_of_emits ?_).bind fun _ => KeptBy.guarded_of_emits ?_
    all_goals exact (Emits.silent _).bind fun _ => Deposits.make_emits _ _

theorem transportCorrection_kept (rule : DivisionRule) (density : Sides α)
    (velocity : Sides (Vector3 α)) (modified : Sides (Option (Vector3 α))) (coefficient : Sides α)
    (direction : Vector3 α) :
    KeptBy (Deposit.isWanted wanted)
      (scheme.transportCorrection rule density velocity modified coefficient direction (.both true))
      (scheme.transportCorrection rule density velocity modified coefficient direction wanted) :=
  (KeptBy.silent _).bind fun _ => (KeptBy.silent _).bind fun _ => Deposits.onSides_kept _ _

end Scheme

/-- Two particles with other flags of ownership. -/
def Sides.owning (p : Sides (Particle α)) (owned : Sides Bool) : Sides (Particle α) :=
  ⟨{ p.i with owned := owned.i }, { p.j with owned := owned.j }⟩

variable (p : Sides (Particle α))

omit [Arithmetic α] in
/-- Where neither side is wanted, nothing is. -/
theorem Contribution.isWanted_eq_false (h : (wanted.i || wanted.j) = false) (c : Contribution α) :
    c.isWanted wanted = false := by
  rw [Bool.or_eq_false_iff] at h
  rw [isWanted]
  cases c.side
  · exact h.1
  · exact h.2

namespace Stepwise

theorem background_kept (scheme : Scheme) (kind : Background) (coefficient modifiedSlope : Sides α)
    (direction : Vector3 α) :
    KeptBy (Contribution.isWanted wanted)
      (background scheme kind (p.owning (.both true)) coefficient modifiedSlope direction)
      (background scheme kind (p.owning wanted) coefficient modifiedSlope direction) := by
  cases kind with
  | off => exact KeptBy.silent _
  | standard => exact Deposits.into_kept (scheme.standardBackground_kept _ _ _ _)
  | generalized => exact Deposits.into_kept (scheme.generalizedBackground_kept _ _ _ _ _)

/-- A pair of the stepwise loop contributes to the owned sides what it would contribute to them if both
were owned. -/
theorem pair_kept (scheme : Scheme) (plan : Plan α) (input : PairInput n α) :
    KeptBy (Contribution.isWanted wanted) (pair scheme plan (p.owning (.both true)) input)
      (pair scheme plan (p.owning wanted) input) := by
  refine KeptBy.guarded_of_none ?_ Contribution.isWanted_eq_false
  refine (KeptBy.silent _).bind fun coefficient => ?_
  refine (Deposits.into_kept (scheme.pressureGradient_kept _ _ _ _)).bind fun _ => ?_
  refine (Deposits.into_kept (scheme.shearForces_kept _ _ _ _ _ _ _ _ _)).bind fun _ => ?_
  refine (background_kept p scheme plan.background _ _ _).bind fun _ => KeptBy.guarded _ ?_
  exact Deposits.into_kept (scheme.transportCorrection_kept _ _ _ _ _ _)

end Stepwise

namespace Fused

variable (monaghan : Bool)

omit [Arithmetic α] in
theorem addBoth_kept (target : Target) (onI onJ : Vector3 α) :
    KeptBy (Contribution.isWanted wanted) (addBoth target (.both true) onI onJ)
      (addBoth target wanted onI onJ) :=
  (KeptBy.guarded_of_emits (Emits.emit rfl)).bind fun _ => KeptBy.guarded_of_emits (Emits.emit rfl)

theorem shear_kept (rule : DivisionRule) (k distance : α) (coefficient : Sides α)
    (direction : Vector3 α) :
    KeptBy (Contribution.isWanted wanted)
      (shear monaghan rule k (p.owning (.both true)) distance coefficient direction)
      (shear monaghan rule k (p.owning wanted) distance coefficient direction) := by
  refine KeptBy.ite (monaghan = true) ?_ (KeptBy.ite _ ?_ (KeptBy.silent _))
  · refine (KeptBy.silent _).bind fun shear => ?_
    refine (KeptBy.guarded_of_emits ?_).bind fun _ => KeptBy.guarded_of_emits ?_
    all_goals exact Deposits.into_emits (Monaghan.shearOn_emits _ _ _ _ _ _ _)
  · exact (KeptBy.silent _).bind fun _ => (KeptBy.silent _).bind fun _ => addBoth_kept _ _ _

theorem background_kept (kind : Background) (coefficient modifiedSlope : Sides α)
    (direction : Vector3 α) :
    KeptBy (Contribution.isWanted wanted)
      (background monaghan kind (p.owning (.both true)) coefficient modifiedSlope direction)
      (background monaghan kind (p.owning wanted) coefficient modifiedSlope direction) := by
  cases kind with
  | off => exact KeptBy.silent _
  | standard => exact (KeptBy.silent _).bind fun _ => addBoth_kept _ _ _
  | generalized => exact (KeptBy.silent _).bind fun _ => addBoth_kept _ _ _

theorem transport_kept (rule : DivisionRule) (coefficient : Sides α) (direction : Vector3 α) :
    KeptBy (Contribution.isWanted wanted)
      (transport monaghan rule (p.owning (.both true)) coefficient direction)
      (transport monaghan rule (p.owning wanted) coefficient direction) :=
  (KeptBy.silent _).bind fun _ => addBoth_kept _ _ _

/-- A pair of the fused loop contributes to the owned sides what it would contribute to them if both were
owned. -/
theorem pair_kept (number : Int) (rule : DivisionRule) (plan : Plan α) (input : PairInput n α) :
    KeptBy (Contribution.isWanted wanted) (pair number rule plan (p.owning (.both true)) input)
      (pair number rule plan (p.owning wanted) input) := by
  refine KeptBy.guarded_of_none ?_ Contribution.isWanted_eq_false
  refine (KeptBy.silent _).bind fun coefficient => ?_
  refine KeptBy.bind ((KeptBy.silent _).bind fun _ => addBoth_kept _ _ _) fun _ => ?_
  refine (shear_kept p _ _ _ _ _ _).bind fun _ => ?_
  refine (background_kept p _ _ _ _ _).bind fun _ => KeptBy.guarded _ ?_
  exact transport_kept p _ _ _ _

end Fused

end ParticleMomentum
