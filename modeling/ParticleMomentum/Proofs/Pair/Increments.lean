import ParticleMomentum.Pair.Term
import ParticleMomentum.Proofs.Evaluation.Ownership
import ParticleMomentum.Proofs.Exact.Space

/-!
# What a call adds

A call of a term serves two sides, and each side on its own. What it deposits on one side does not depend
on whether the other side is asked for, nor on what any accumulator holds. So a side may be left out
without a change on the other, down to the last bit. In exact arithmetic there is an increment for each
side of a term, and an accumulator that stands for both sides receives both.

`Term.addTo` divides by the strict rule. The terms of the stepwise loop divide by the extended one, and
what holds of calls holds under either rule.
-/

namespace ParticleMomentum

variable {α : Type} {name : String} {targets : Sides (Option String)}

/-- A wish for one side only. -/
def Side.only : Side → Sides Bool
  | .i => ⟨true, false⟩
  | .j => ⟨false, true⟩

theorem Side.get_only {side other : Side} : side.only.get other = true ↔ other = side := by
  cases side <;> cases other <;> decide

/-- One name, for one side. -/
def Side.target (key : String) : Side → Sides (Option String)
  | .i => ⟨some key, none⟩
  | .j => ⟨none, some key⟩

theorem Side.get_target_iff {key : String} {side other : Side} :
    (side.target key).get other = some name ↔ other = side ∧ name = key := by
  cases side <;> cases other <;> simp [target, Sides.get, eq_comm]

/-- A deposit goes to the accumulator of a name. -/
def Deposit.reaches (targets : Sides (Option String)) (name : String) (d : Deposit α) : Bool :=
  targets.get d.side == some name

/-! ## Accumulators after deposits -/

namespace Accumulators

variable [Arithmetic α]

/-- A vector after deposits. -/
def collect (v : Vector3 α) (items : List (Deposit α)) : Vector3 α :=
  items.foldl (fun v d => v + d.amount) v

theorem lookup_add (accumulators : Accumulators α) (key : String) (w : Vector3 α) :
    (accumulators.add key w).lookup name =
      (accumulators.lookup name).map fun v => if key = name then v + w else v := by
  induction accumulators with
  | nil => rfl
  | cons held rest ih =>
      obtain ⟨k, v⟩ := held
      change List.lookup name ((if k == key then (k, v + w) else (k, v)) :: add rest key w) = _
      have kept : (if k == key then (k, v + w) else (k, v)) = (k, if key = k then v + w else v) := by
        by_cases h : k = key
        · simp [h]
        · simp [h, Ne.symm h]
      rw [kept, List.lookup_cons, List.lookup_cons]
      by_cases h : name = k
      · simp [h]
      · rw [beq_eq_false_iff_ne.mpr h]
        exact ih

theorem lookup_receive (accumulators : Accumulators α) (d : Deposit α) :
    (accumulators.receive targets d).lookup name =
      (accumulators.lookup name).map fun v =>
        if d.reaches targets name then v + d.amount else v := by
  rw [receive, Deposit.reaches]
  cases targets.get d.side with
  | none => simp
  | some key => simp [lookup_add]

/-- An accumulator receives, in order, the deposits that go to its name. -/
theorem lookup_foldl_receive (accumulators : Accumulators α) (items : List (Deposit α)) :
    (items.foldl (receive targets) accumulators).lookup name =
      (accumulators.lookup name).map fun v =>
        collect v (items.filter (Deposit.reaches targets name)) := by
  induction items generalizing accumulators with
  | nil => simp [collect]
  | cons d rest ih =>
      rw [List.foldl_cons, ih, lookup_receive, Option.map_map, List.filter_cons]
      refine congrArg (Option.map · _) (funext fun v => ?_)
      by_cases h : d.reaches targets name = true <;> simp [h, collect]

end Accumulators

/-! ## Calls -/

namespace Term

section Calls

variable [Arithmetic α] (term : Term α) (scheme : Scheme) (rule : DivisionRule)
variable (coefficient : Sides α) (direction : Vector3 α)

/-- The deposits on one side of a term, asked for alone. -/
def depositsOn (side : Side) : List (Deposit α) :=
  (term.deposits scheme rule coefficient direction side.only).items.filter
    (Deposit.isWanted side.only)

/-- A term that is wanted on some sides deposits there what it deposits when it is wanted on both. -/
theorem deposits_kept (wanted : Sides Bool) :
    Trail.KeptBy (Deposit.isWanted wanted)
      (term.deposits scheme rule coefficient direction (.both true))
      (term.deposits scheme rule coefficient direction wanted) := by
  cases term with
  | pressureGradient => exact scheme.pressureGradient_kept _ _ _ _
  | shearForces => exact scheme.shearForces_kept _ _ _ _ _ _ _ _ _
  | standardBackground => exact scheme.standardBackground_kept _ _ _ _
  | generalizedBackground => exact scheme.generalizedBackground_kept _ _ _ _ _
  | transportCorrection => exact scheme.transportCorrection_kept _ _ _ _ _ _

variable {term scheme rule coefficient direction}

/-- On a side that is wanted a term deposits what it does when asked for that side alone. -/
theorem filter_deposits {wanted : Sides Bool} {side : Side} (own : wanted.get side = true)
    (ends : (term.deposits scheme rule coefficient direction wanted).result = .ok ()) :
    (term.deposits scheme rule coefficient direction wanted).items.filter
        (Deposit.isWanted side.only) =
      term.depositsOn scheme rule coefficient direction side := by
  -- the other side is wanted as well, or the term is asked for this side alone
  have both : wanted = .both true ∨ wanted = side.only := by
    obtain ⟨_ | _, _ | _⟩ := wanted <;> cases side <;> simp_all [Sides.both, Side.only, Sides.get]
  rcases both with rfl | rfl
  · rw [depositsOn, deposits_kept term scheme rule coefficient direction side.only () ends,
      List.filter_filter]
    simp
  · rfl

variable {accumulators : Accumulators α}

/-- A call never touches an accumulator that stands for no side. -/
theorem lookup_of_unnamed (unnamed : ∀ side, targets.get side ≠ some name) :
    (term.addBy scheme rule coefficient direction targets accumulators).1.lookup name =
      accumulators.lookup name := by
  have nothing : Deposit.reaches targets name = fun _ : Deposit α => false :=
    funext fun d => beq_eq_false_iff_ne.mpr (unnamed d.side)
  simp [addBy, Accumulators.lookup_foldl_receive, nothing, Accumulators.collect]

/-- An accumulator that stands for one side receives what the term deposits there when asked for that
side alone. -/
theorem lookup_of_alone {side : Side} (named : targets.get side = some name)
    (alone : ∀ other, targets.get other = some name → other = side)
    (completes : (term.addBy scheme rule coefficient direction targets accumulators).2 = .ok ()) :
    (term.addBy scheme rule coefficient direction targets accumulators).1.lookup name =
      (accumulators.lookup name).map fun v =>
        Accumulators.collect v (term.depositsOn scheme rule coefficient direction side) := by
  have wanted : (targets.map Option.isSome).get side = true := by
    cases side <;> exact congrArg Option.isSome named
  have reaches (d : Deposit α) : d.reaches targets name = d.isWanted side.only := by
    rw [Bool.eq_iff_iff, Deposit.reaches, beq_iff_eq, Deposit.isWanted, Side.get_only]
    exact ⟨alone d.side, fun h => h ▸ named⟩
  rw [addBy, Accumulators.lookup_foldl_receive, funext reaches, filter_deposits wanted completes]

/-- A call for no side writes nothing, whether it completes or not. -/
theorem addBy_none :
    (term.addBy scheme rule coefficient direction ⟨none, none⟩ accumulators).1 = accumulators := by
  have stays : Accumulators.receive ⟨none, none⟩ =
      fun (accumulators : Accumulators α) _ => accumulators := by
    funext accumulators d
    obtain ⟨_ | _, _⟩ := d <;> rfl
  rw [addBy, stays, List.foldl_fixed]

/-- A call that completes for both sides completes for any of them. -/
theorem completes_of_both {a b : String}
    (completes : (term.addBy scheme rule coefficient direction ⟨some a, some b⟩ accumulators).2 =
      .ok ()) (targets : Sides (Option String)) :
    (term.addBy scheme rule coefficient direction targets accumulators).2 = .ok () :=
  congrArg Trail.result
    (deposits_kept term scheme rule coefficient direction (targets.map Option.isSome) () completes)

/-- What a call does with the accumulator of one side, it does as well when the other side is left out;
all other accumulators then stay as they are. -/
theorem lookup_target {key : String} {side : Side} (named : targets.get side = some key)
    (alone : ∀ other, targets.get other = some key → other = side)
    (completes : (term.addBy scheme rule coefficient direction targets accumulators).2 = .ok ())
    (completes' : (term.addBy scheme rule coefficient direction (side.target key)
      accumulators).2 = .ok ()) :
    (term.addBy scheme rule coefficient direction (side.target key) accumulators).1.lookup name =
      if name = key then
        (term.addBy scheme rule coefficient direction targets accumulators).1.lookup name
      else accumulators.lookup name := by
  split
  · next same =>
    rw [same, lookup_of_alone named alone completes]
    exact lookup_of_alone (side.get_target_iff.mpr ⟨rfl, rfl⟩)
      (fun _ h => (side.get_target_iff.mp h).1) completes'
  · next other => exact lookup_of_unnamed fun _ h => other (side.get_target_iff.mp h).2

end Calls

/-! ## Increments -/

/-- The increment on one side of a term, asked for alone. -/
noncomputable def increment (term : Term ℝ) (scheme : Scheme) (rule : DivisionRule)
    (coefficient : Sides ℝ) (direction : Vector3 ℝ) (side : Side) : Vector3 ℝ :=
  ((term.depositsOn scheme rule coefficient direction side).map Deposit.amount).sum

end Term

theorem Accumulators.collect_eq (v : Vector3 ℝ) (items : List (Deposit ℝ)) :
    collect v items = v + (items.map Deposit.amount).sum := by
  induction items generalizing v with
  | nil => exact (add_zero v).symm
  | cons d rest ih =>
      rw [collect, List.foldl_cons, ← collect, ih, List.map_cons, List.sum_cons, add_assoc]

namespace Deposits

/-- The sum of the deposits that are to be kept. -/
noncomputable def total (keep : Deposit ℝ → Bool) (items : List (Deposit ℝ)) : Vector3 ℝ :=
  ((items.filter keep).map Deposit.amount).sum

theorem total_cons (keep : Deposit ℝ → Bool) (d : Deposit ℝ) (items : List (Deposit ℝ)) :
    total keep (d :: items) = (if keep d then d.amount else 0) + total keep items := by
  rw [total, List.filter_cons]
  split <;> simp [total]

/-- The deposits that go to a name are those on the sides for which it stands. -/
theorem total_reaches (items : List (Deposit ℝ)) :
    total (Deposit.reaches targets name) items =
      (if targets.i = some name then total (Deposit.isWanted Side.i.only) items else 0) +
        if targets.j = some name then total (Deposit.isWanted Side.j.only) items else 0 := by
  induction items with
  | nil => simp [total]
  | cons d rest ih =>
      obtain ⟨side, amount⟩ := d
      simp only [total_cons, ih, Deposit.reaches, Deposit.isWanted, Side.only, Sides.get]
      cases side with
      | i => by_cases h : targets.i = some name <;> simp [h, add_assoc]
      | j => by_cases h : targets.j = some name <;> simp [h, add_left_comm]

end Deposits

namespace Term

variable {term : Term ℝ} {scheme : Scheme} {rule : DivisionRule} {coefficient : Sides ℝ}
variable {direction : Vector3 ℝ} {accumulators : Accumulators ℝ}

theorem total_deposits {wanted : Sides Bool} {side : Side} (own : wanted.get side = true)
    (ends : (term.deposits scheme rule coefficient direction wanted).result = .ok ()) :
    Deposits.total (Deposit.isWanted side.only)
        (term.deposits scheme rule coefficient direction wanted).items =
      term.increment scheme rule coefficient direction side := by
  rw [Deposits.total, filter_deposits own ends, increment]

/-- An accumulator grows by the increments of the sides for which it stands. -/
theorem lookup_grown
    (completes : (term.addBy scheme rule coefficient direction targets accumulators).2 = .ok ()) :
    (term.addBy scheme rule coefficient direction targets accumulators).1.lookup name =
      (accumulators.lookup name).map fun v => v +
        ((if targets.i = some name then term.increment scheme rule coefficient direction .i else 0) +
          if targets.j = some name then term.increment scheme rule coefficient direction .j
          else 0) := by
  rw [addBy, Accumulators.lookup_foldl_receive]
  refine congrArg (Option.map · _) (funext fun v => ?_)
  rw [Accumulators.collect_eq, ← Deposits.total, Deposits.total_reaches]
  -- a side for which the accumulator stands is wanted, so its sum is the increment of that side
  congr 2
  all_goals
    refine ite_congr rfl (fun named => total_deposits ?_ completes) fun _ => rfl
    exact congrArg Option.isSome named

/-- The two sides of a call are independent and additive. On doubles, a call that completes for two
accumulators completes for either of them and for none; the one that is still asked for gets the same
bits, and all others stay as they are. In exact arithmetic each side has an increment that depends on no
accumulator. Whatever a call is asked for, once it completes an accumulator has received the increments
of the sides for which it stands, both where it stands for both. -/
theorem sides_independent (scheme : Scheme) (rule : DivisionRule) :
    (∀ (term : Term Float) (coefficient : Sides Float) (direction : Vector3 Float)
        (accumulators : Accumulators Float),
      let call := fun targets => term.addBy scheme rule coefficient direction targets accumulators
      (call ⟨none, none⟩).1 = accumulators ∧
      ∀ a b : String, a ≠ b → (call ⟨some a, some b⟩).2 = .ok () →
        (call ⟨some a, none⟩).2 = .ok () ∧ (call ⟨none, some b⟩).2 = .ok () ∧
        (call ⟨none, none⟩).2 = .ok () ∧
        ∀ name,
          (call ⟨some a, none⟩).1.lookup name =
            (if name = a then (call ⟨some a, some b⟩).1.lookup name
              else accumulators.lookup name) ∧
          (call ⟨none, some b⟩).1.lookup name =
            if name = b then (call ⟨some a, some b⟩).1.lookup name
            else accumulators.lookup name) ∧
    ∀ (term : Term ℝ) (coefficient : Sides ℝ) (direction : Vector3 ℝ)
        (targets : Sides (Option String)) (accumulators : Accumulators ℝ),
      let call := term.addBy scheme rule coefficient direction targets accumulators
      let increment := term.increment scheme rule coefficient direction
      call.2 = .ok () →
        ∀ name, call.1.lookup name = (accumulators.lookup name).map fun v => v +
          ((if targets.i = some name then increment .i else 0) +
            if targets.j = some name then increment .j else 0) := by
  refine ⟨fun term coefficient direction accumulators => ⟨addBy_none, ?_⟩, ?_⟩
  · intro a b distinct both
    have completes := completes_of_both both
    have onI : ∀ other, (⟨some a, some b⟩ : Sides (Option String)).get other = some a →
        other = .i := by
      rintro (_ | _) h
      · rfl
      · exact absurd (Option.some.inj h).symm distinct
    have onJ : ∀ other, (⟨some a, some b⟩ : Sides (Option String)).get other = some b →
        other = .j := by
      rintro (_ | _) h
      · exact absurd (Option.some.inj h) distinct
      · rfl
    refine ⟨completes _, completes _, completes _, fun name => ⟨?_, ?_⟩⟩
    · exact lookup_target rfl onI both (completes (Side.i.target a))
    · exact lookup_target rfl onJ both (completes (Side.j.target b))
  · intro term coefficient direction targets accumulators _ _ completes name
    exact lookup_grown completes

/-- The shear of two particles in relative motion, with shear and bulk viscosity. -/
def slidingShear : Term Float :=
  .shearForces ⟨1.0, 2.0⟩ ⟨⟨1.0, 0.5, 0.0⟩, Vector3.zero⟩ 5.0 (.both 1.0) (.both 0.5) 0.5

/-- The pressure between two particles of unlike density. -/
noncomputable def unlikePressure : Term ℝ := .pressureGradient ⟨1, 2⟩ ⟨3, 4⟩

def emptyPair : Accumulators Float := [("a", Vector3.zero), ("b", Vector3.zero)]

theorem sides_independent_slidingShear :
    (slidingShear.addBy .monaghan .strict (.both (-1.0)) ⟨1.0, 0.0, 0.0⟩ ⟨some "a", some "b"⟩
      emptyPair).2 = .ok () ∧
    (slidingShear.addBy .monaghan .strict (.both (-1.0)) ⟨1.0, 0.0, 0.0⟩ ⟨some "a", none⟩
      emptyPair).1.lookup "a" =
    (slidingShear.addBy .monaghan .strict (.both (-1.0)) ⟨1.0, 0.0, 0.0⟩ ⟨some "a", some "b"⟩
      emptyPair).1.lookup "a" ∧
    (unlikePressure.addBy .monaghan .strict (.both (-1)) ⟨1, 0, 0⟩ ⟨some "a", some "a"⟩
      [("a", ⟨1, 2, 3⟩)]).2 = .ok () ∧
    (unlikePressure.addBy .monaghan .strict (.both (-1)) ⟨1, 0, 0⟩ ⟨some "a", some "a"⟩
      [("a", ⟨1, 2, 3⟩)]).1.lookup "a" =
    some (⟨1, 2, 3⟩ + (unlikePressure.increment .monaghan .strict (.both (-1)) ⟨1, 0, 0⟩ .i +
      unlikePressure.increment .monaghan .strict (.both (-1)) ⟨1, 0, 0⟩ .j)) := by
  obtain ⟨bits, exact⟩ := sides_independent .monaghan .strict
  have completes : (slidingShear.addBy .monaghan .strict (.both (-1.0)) ⟨1.0, 0.0, 0.0⟩
      ⟨some "a", some "b"⟩ emptyPair).2 = .ok () := by
    have ends : (slidingShear.addBy .monaghan .strict (.both (-1.0)) ⟨1.0, 0.0, 0.0⟩
        ⟨some "a", some "b"⟩ emptyPair).2.toBool = true := by decide +kernel
    rcases h : (slidingShear.addBy .monaghan .strict (.both (-1.0)) ⟨1.0, 0.0, 0.0⟩
        ⟨some "a", some "b"⟩ emptyPair).2 with f | ⟨⟩
    · rw [h] at ends
      cases ends
    · rfl
  have pressed : (unlikePressure.addBy .monaghan .strict (.both (-1)) ⟨1, 0, 0⟩
      ⟨some "a", some "a"⟩ [("a", ⟨1, 2, 3⟩)]).2 = .ok () := by
    change (Monaghan.pressureGradient _ _ _ _ _).result = _
    rw [Monaghan.pressureGradient, Monaghan.pressureFactor,
      Arithmetic.quotient_real (by norm_num), Arithmetic.quotient_real (by norm_num)]
    rfl
  obtain ⟨-, -, -, kept⟩ := (bits slidingShear (.both (-1.0)) ⟨1.0, 0.0, 0.0⟩ emptyPair).2
    "a" "b" (by decide) completes
  exact ⟨completes, (kept "a").1, pressed, exact unlikePressure _ _ _ _ pressed "a"⟩

end Term

end ParticleMomentum
