import ParticleMomentum.Pair.Term
import ParticleMomentum.Proofs.Evaluation.Backends

/-!
# Terms that fail

A term that cannot be computed should leave the accumulators as they were. All terms but one do: they
meet their divisors before they make a deposit, or divide by the same number for either side. The
generalized background pressure has a factor for each side, which it computes in turn. When side `i` has
received its deposit, the square of the density on side `j` may still turn out to be zero; the call then
fails, and the deposit stays.
-/

namespace ParticleMomentum

open Arithmetic (isZero)

variable {α : Type}

/-! ## Trails that fail empty-handed -/

namespace Trail

variable {ω ε β γ : Type}

/-- A trail that ends with a fault has no items. -/
def AllOrNothing (t : Trail ω ε β) : Prop := ∀ e, t.result = .error e → t.items = []

namespace AllOrNothing

variable {t : Trail ω ε β} {f : β → Trail ω ε γ}

theorem silent (r : Except ε β) : AllOrNothing (⟨[], r⟩ : Trail ω ε β) := fun _ _ => rfl

theorem of_ends (h : t.Ends) : t.AllOrNothing := by
  obtain ⟨b, hb⟩ := h
  intro e he
  rw [hb] at he
  cases he

/-- What comes before the first item may fail. -/
theorem lift_bind {r : Except ε β} (rest : ∀ b, r = .ok b → (f b).AllOrNothing) :
    ((liftM r : Trail ω ε β) >>= f).AllOrNothing := by
  cases r with
  | error e => exact silent _
  | ok b => exact rest b rfl

/-- What comes after an item must not fail. -/
theorem bind (first : t.AllOrNothing) (rest : ∀ b, t.result = .ok b → (f b).Ends) :
    (t >>= f).AllOrNothing := by
  obtain ⟨l, e | b⟩ := t
  · exact fun _ _ => first e rfl
  · exact of_ends ((Ends.ok l b).bind rest)

/-- Of two optional parts the second must not fail where both are wanted and the first does not. -/
theorem guarded_bind {t u : Trail ω ε Unit} {first second : Bool} (ht : t.AllOrNothing)
    (hu : u.AllOrNothing) (together : first = true → second = true → t.Ends → u.Ends) :
    (guarded first t >>= fun _ => guarded second u).AllOrNothing := by
  cases first with
  | false =>
      cases second
      · exact silent _
      · exact hu
  | true =>
      refine bind ht fun _ ends => ?_
      cases second with
      | false => exact Ends.ok [] ()
      | true => exact together rfl rfl ⟨_, ends⟩

end AllOrNothing

end Trail

open Trail (AllOrNothing Ends)

/-- A computation that goes on where a check lets it. -/
theorem Trail.lift_ite_bind {ω ε β γ : Type} (c : Prop) [Decidable c] (e : ε) (b : β)
    (f : β → Trail ω ε γ) :
    (liftM (if c then .error e else .ok b : Except ε β) : Trail ω ε β) >>= f =
      if c then fail e else f b := by
  split <;> rfl

theorem Deposits.onSides_ends (wanted : Sides Bool) (onI onJ : Vector3 α) :
    (onSides wanted onI onJ).Ends :=
  (Ends.guarded _ (.ok _ ())).bind fun _ _ => Ends.guarded _ (.ok _ ())

variable [Arithmetic α]

theorem Arithmetic.quotient_eq_ite (x y : α) :
    (quotient x y : Except (Fault α) α) = if isZero y then .error .zeroDivisor else .ok (x / y) := rfl

/-! ## The terms -/

namespace Deposits

/-- A deposit on one side, unless the square of the density there is zero. -/
def overSquare (density : Sides α) (side : Side) (amount : Vector3 α) : Deposits α Unit :=
  if isZero (density.get side * density.get side) then Trail.fail .zeroDivisor else make side amount

variable {density : Sides α}

theorem overSquare_ends_iff (side : Side) (amount : Vector3 α) :
    (overSquare density side amount).Ends ↔ isZero (density.get side * density.get side) = false := by
  rw [overSquare]
  cases isZero (density.get side * density.get side) with
  | false => exact ⟨fun _ => rfl, fun _ => Ends.ok _ ()⟩
  | true => exact ⟨nofun, nofun⟩

theorem overSquare_allOrNothing (side : Side) (amount : Vector3 α) :
    (overSquare density side amount).AllOrNothing := by
  rw [overSquare]
  split
  · exact .silent _
  · exact .of_ends (Ends.ok _ ())

end Deposits

namespace Monaghan

theorem generalizedBackground_eq_ite (pressure massOther density slope : α) :
    generalizedBackground pressure massOther density slope =
      if isZero (density * density) then .error .zeroDivisor
      else .ok (pressure * (massOther / (density * density)) * slope) := by
  rw [generalizedBackground, Arithmetic.quotient_eq_ite]
  split <;> rfl

variable {density : Sides α} {distance : α}

/-- The shear on one side is deposited unless the common divisor of both sides is zero. -/
theorem shearOn_ends_iff (side : Side) (c : α) (shear : ShearCoefficients α)
    (relativeVelocity direction : Vector3 α) :
    (shearOn side c shear density distance relativeVelocity direction).Ends ↔
      isZero (density.i * density.j * distance) = false := by
  rw [shearOn, shearParts, Arithmetic.quotient_eq_ite]
  cases isZero (density.i * density.j * distance) with
  | false => exact ⟨fun _ => rfl, fun _ => Ends.ok _ ()⟩
  | true => exact ⟨nofun, nofun⟩

theorem shearOn_allOrNothing (side : Side) (c : α) (shear : ShearCoefficients α)
    (relativeVelocity direction : Vector3 α) :
    (shearOn side c shear density distance relativeVelocity direction).AllOrNothing :=
  AllOrNothing.lift_bind fun _ _ => .of_ends (Ends.ok _ ())

end Monaghan

namespace Scheme

variable (scheme : Scheme) (rule : DivisionRule) (density mass background slope coefficient : Sides α)
variable (direction : Vector3 α) (wanted : Sides Bool)

theorem pressureGradient_allOrNothing (pressure : Sides α) :
    (scheme.pressureGradient density pressure coefficient direction wanted).AllOrNothing := by
  cases scheme
  all_goals exact AllOrNothing.lift_bind fun _ _ => .of_ends (Deposits.onSides_ends _ _ _)

theorem shearForces_allOrNothing (velocity : Sides (Vector3 α)) (k : α)
    (viscosity bulkViscosity : Sides α) (distance : α) :
    (scheme.shearForces rule density velocity k viscosity bulkViscosity distance coefficient direction
      wanted).AllOrNothing := by
  cases scheme with
  | monaghan =>
      refine AllOrNothing.lift_bind fun shear _ => ?_
      split
      · exact .silent _
      · -- both sides divide by the same number
        refine .guarded_bind (Monaghan.shearOn_allOrNothing _ _ _ _ _)
          (Monaghan.shearOn_allOrNothing _ _ _ _ _) fun _ _ ends => ?_
        exact (Monaghan.shearOn_ends_iff _ _ _ _ _).mpr ((Monaghan.shearOn_ends_iff _ _ _ _ _).mp ends)
  | adami =>
      rw [shearForces, Adami.shearForces]
      split
      · exact .lift_bind fun _ _ => .lift_bind fun _ _ => .of_ends (Deposits.onSides_ends _ _ _)
      · exact .silent _

theorem standardBackground_allOrNothing :
    (scheme.standardBackground density background coefficient direction wanted).AllOrNothing := by
  cases scheme with
  | monaghan => exact AllOrNothing.lift_bind fun _ _ => .of_ends (Deposits.onSides_ends _ _ _)
  | adami => exact .of_ends (Deposits.onSides_ends _ _ _)

theorem transportCorrection_allOrNothing (velocity : Sides (Vector3 α))
    (modified : Sides (Option (Vector3 α))) :
    (scheme.transportCorrection rule density velocity modified coefficient direction
      wanted).AllOrNothing :=
  .lift_bind fun _ _ => .lift_bind fun _ _ => .of_ends (Deposits.onSides_ends _ _ _)

/-! ## The generalized background pressure -/

/-- The factors of the generalized background pressure, where they exist. -/
def generalizedFactor : Sides α :=
  match scheme with
  | monaghan =>
    ⟨background.i * (mass.j / (density.i * density.i)) * slope.i,
      background.j * (mass.i / (density.j * density.j)) * slope.j⟩
  | adami =>
    ⟨background.i * mass.i * slope.i / (density.i * density.i),
      background.j * mass.j * slope.j / (density.j * density.j)⟩

/-- The generalized background pressure serves one side after the other. -/
theorem generalizedBackground_eq_overSquare :
    scheme.generalizedBackground density mass background slope direction wanted = (do
      let factor := scheme.generalizedFactor density mass background slope
      Trail.guarded wanted.i (Deposits.overSquare density .i (direction.scale (-factor.i)))
      Trail.guarded wanted.j (Deposits.overSquare density .j (direction.scale factor.j))) := by
  cases scheme with
  | monaghan =>
      simp only [generalizedBackground, Monaghan.generalizedBackgroundTerm,
        Monaghan.generalizedBackground_eq_ite, Trail.lift_ite_bind]
      rfl
  | adami =>
      simp only [generalizedBackground, Adami.generalizedBackgroundTerm, Adami.generalizedBackground,
        Arithmetic.quotient_eq_ite, Trail.lift_ite_bind]
      rfl

theorem generalizedBackground_allOrNothing
    (together : wanted.i = true → wanted.j = true → isZero (density.i * density.i) = false →
      isZero (density.j * density.j) = false) :
    (scheme.generalizedBackground density mass background slope direction wanted).AllOrNothing := by
  rw [generalizedBackground_eq_overSquare]
  refine .guarded_bind (Deposits.overSquare_allOrNothing _ _) (Deposits.overSquare_allOrNothing _ _)
    fun wantedI wantedJ ends => ?_
  have square := (Deposits.overSquare_ends_iff _ _).mp ends
  exact (Deposits.overSquare_ends_iff _ _).mpr (together wantedI wantedJ square)

end Scheme

/-! ## Calls -/

namespace Term

/-- Both sides are asked for a generalized background pressure that exists on side `i` only. -/
def Splits (targets : Sides (Option String)) : Term α → Prop
  | generalizedBackground density _ _ _ =>
    targets.i.isSome = true ∧ targets.j.isSome = true ∧ isZero (density.i * density.i) = false ∧
      isZero (density.j * density.j) = true
  | _ => False

/-- A term that does not split makes no deposit if it fails, however it divides. -/
theorem deposits_allOrNothing {term : Term α} {targets : Sides (Option String)}
    (whole : ¬ term.Splits targets) (scheme : Scheme) (rule : DivisionRule) (coefficient : Sides α)
    (direction : Vector3 α) :
    (term.deposits scheme rule coefficient direction (targets.map Option.isSome)).AllOrNothing := by
  cases term with
  | pressureGradient density pressure => exact scheme.pressureGradient_allOrNothing _ _ _ _ _
  | shearForces density velocity k viscosity bulkViscosity distance =>
      exact scheme.shearForces_allOrNothing _ _ _ _ _ _ _ _ _ _
  | standardBackground density background => exact scheme.standardBackground_allOrNothing _ _ _ _ _
  | generalizedBackground density mass background slope =>
      refine scheme.generalizedBackground_allOrNothing _ _ _ _ _ _ fun wantedI wantedJ square => ?_
      exact Bool.eq_false_iff.mpr fun zero => whole ⟨wantedI, wantedJ, square, zero⟩
  | transportCorrection density velocity modified =>
      exact scheme.transportCorrection_allOrNothing _ _ _ _ _ _ _

/-- A call that fails leaves all accumulators as they were, unless its term splits. Where both sides are
asked for a generalized background pressure that exists on side `i` only, the call fails by a zero divisor
after it has added the factor of side `i` to the accumulator of that side. -/
theorem failing_call (scheme : Scheme) (coefficient : Sides α) (direction : Vector3 α)
    (accumulators : Accumulators α) :
    (∀ (term : Term α) (targets : Sides (Option String)) (f : Fault α), ¬ term.Splits targets →
      (term.addTo scheme coefficient direction targets accumulators).2 = .error f →
      (term.addTo scheme coefficient direction targets accumulators).1 = accumulators) ∧
    ∀ (density mass background slope : Sides α) (nameI nameJ : String),
      isZero (density.i * density.i) = false → isZero (density.j * density.j) = true →
      (generalizedBackground density mass background slope).addTo scheme coefficient direction
          ⟨some nameI, some nameJ⟩ accumulators =
        (accumulators.add nameI (direction.scale
          (-(scheme.generalizedFactor density mass background slope).i)), .error .zeroDivisor) := by
  constructor
  · intro term targets f whole fails
    have empty := deposits_allOrNothing whole scheme .strict coefficient direction f fails
    rw [addTo, addBy, empty]
    rfl
  · intro density mass background slope nameI nameJ square zero
    have served (v : Vector3 α) : Deposits.overSquare density .i v = Deposits.make .i v :=
      if_neg (Bool.eq_false_iff.mp square)
    have refused (v : Vector3 α) : Deposits.overSquare density .j v = Trail.fail .zeroDivisor :=
      if_pos zero
    simp only [addTo, addBy, deposits, scheme.generalizedBackground_eq_overSquare, served, refused]
    rfl

/-- The shear of two particles whose bulk viscosity outweighs their shear viscosity. -/
def bulkyShear : Term Float :=
  .shearForces (.both 1.0) ⟨⟨1.0, 0.0, 0.0⟩, Vector3.zero⟩ 5.0 (.both 1.0) (.both 2.0) 0.5

/-- A particle of density one beside one without a density. -/
def besideNothing : Sides Float := ⟨1.0, 0.0⟩

def twoAccumulators : Accumulators Float := [("a", Vector3.zero), ("b", Vector3.zero)]

theorem failing_call_bulkyShear :
    ¬ bulkyShear.Splits ⟨some "a", some "b"⟩ ∧
    (∃ f, (bulkyShear.addTo .monaghan (.both (-1.0)) ⟨1.0, 0.0, 0.0⟩ ⟨some "a", some "b"⟩
      twoAccumulators).2 = .error f) ∧
    (bulkyShear.addTo .monaghan (.both (-1.0)) ⟨1.0, 0.0, 0.0⟩ ⟨some "a", some "b"⟩
      twoAccumulators).1 = twoAccumulators ∧
    isZero (besideNothing.i * besideNothing.i) = false ∧
    isZero (besideNothing.j * besideNothing.j) = true ∧
    ((generalizedBackground besideNothing (.both 1.0) (.both 1.0) (.both 1.0)).addTo .adami (.both 0.0)
      ⟨1.0, 0.0, 0.0⟩ ⟨some "a", some "b"⟩ twoAccumulators).2 = .error .zeroDivisor := by
  have whole : ¬ bulkyShear.Splits ⟨some "a", some "b"⟩ := id
  have square : isZero (besideNothing.i * besideNothing.i) = false := by decide +kernel
  have zero : isZero (besideNothing.j * besideNothing.j) = true := by decide +kernel
  have fails : (bulkyShear.addTo .monaghan (.both (-1.0)) ⟨1.0, 0.0, 0.0⟩ ⟨some "a", some "b"⟩
      twoAccumulators).2.toBool = false := by decide +kernel
  have shear := (failing_call .monaghan (.both (-1.0)) ⟨1.0, 0.0, 0.0⟩ twoAccumulators).1 bulkyShear
    ⟨some "a", some "b"⟩
  have background := (failing_call .adami (.both 0.0) ⟨1.0, 0.0, 0.0⟩ twoAccumulators).2 besideNothing
    (.both 1.0) (.both 1.0) (.both 1.0) "a" "b" square zero
  rcases refused : (bulkyShear.addTo .monaghan (.both (-1.0)) ⟨1.0, 0.0, 0.0⟩ ⟨some "a", some "b"⟩
      twoAccumulators).2 with f | ⟨⟩
  · exact ⟨whole, ⟨f, rfl⟩, shear f whole refused, square, zero, congrArg Prod.snd background⟩
  · rw [refused] at fails
    cases fails

/-- A call may fail and yet have added to an accumulator. -/
theorem failing_call_deposits :
    ¬ ∀ (scheme : Scheme) (term : Term Float) (coefficient : Sides Float) (direction : Vector3 Float)
        (targets : Sides (Option String)) (accumulators : Accumulators Float) (f : Fault Float),
      (term.addTo scheme coefficient direction targets accumulators).2 = .error f →
      (term.addTo scheme coefficient direction targets accumulators).1 = accumulators := by
  intro claimed
  let call := (generalizedBackground besideNothing (.both 1.0) (.both 1.0) (.both 1.0)).addTo .monaghan
    (.both 0.0) ⟨1.0, 0.0, 0.0⟩ ⟨some "a", some "b"⟩ twoAccumulators
  have fails : call.2.toBool = false := by decide +kernel
  have deposited : (call.1.map fun held => held.2.x.toBits) ≠
      twoAccumulators.map fun held => held.2.x.toBits := by decide +kernel
  rcases refused : call.2 with f | ⟨⟩
  · have untouched : call.1 = twoAccumulators := claimed _ _ _ _ _ _ f refused
    exact deposited (by rw [untouched])
  · rw [refused] at fails
    cases fails

end Term

end ParticleMomentum
