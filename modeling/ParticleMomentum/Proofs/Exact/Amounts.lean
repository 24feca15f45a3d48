import ParticleMomentum.Proofs.Evaluation.Backends
import ParticleMomentum.Proofs.Exact.Space

/-!
# What contributions amount to

A pair makes its contributions one by one, and the sweep adds them up in order. In exact arithmetic the
order does not matter. `Trail.AddsUpTo` states what a trail amounts to if it ends without a fault, and
composes along the steps of a computation. `Ensemble.particle_sweep` is the same for the whole sweep: it
says how each particle comes out of it.
-/

namespace ParticleMomentum

/-! ## Trails -/

namespace Trail

variable {ω ε β γ M : Type} [AddCommMonoid M] {value : ω → M}

/-- A trail that ends without a fault leaves items whose values sum up to an amount. -/
def AddsUpTo (value : ω → M) (t : Trail ω ε β) (amount : M) : Prop :=
  ∀ b, t.result = .ok b → (t.items.map value).sum = amount

namespace AddsUpTo

variable {t : Trail ω ε β} {f : β → Trail ω ε γ} {a a' : M}

theorem nothing (r : Except ε β) : AddsUpTo value (⟨[], r⟩ : Trail ω ε β) 0 := fun _ _ => rfl

theorem emit (w : ω) : AddsUpTo value (Trail.emit w : Trail ω ε Unit) (value w) := by
  intro b _
  rw [emit_eq, List.map_singleton, List.sum_singleton]

/-- The amounts of two steps are added. -/
theorem bind (first : t.AddsUpTo value a)
    (rest : ∀ b, t.result = .ok b → (f b).AddsUpTo value a') : (t >>= f).AddsUpTo value (a + a') := by
  intro c h
  obtain ⟨b, hb, hc⟩ := bind_result_eq_ok h
  have ha := first b hb
  obtain ⟨l, r⟩ := t
  subst hb
  rw [ok_bind, List.map_append, List.sum_append, ha, rest b rfl c hc]

/-- A step that leaves no items amounts to nothing. -/
theorem lift_bind {r : Except ε β} (rest : ∀ b, r = .ok b → (f b).AddsUpTo value a) :
    ((liftM r : Trail ω ε β) >>= f).AddsUpTo value a := by
  have h := bind (f := f) (nothing r) rest
  rw [zero_add] at h
  exact h

theorem fail (e : ε) : AddsUpTo value (Trail.fail e : Trail ω ε β) a := by
  intro b h
  cases h

theorem guarded {t : Trail ω ε Unit} (c : Bool) (h : t.AddsUpTo value a) :
    (Trail.guarded c t).AddsUpTo value (if c then a else 0) := by
  cases c
  · exact nothing _
  · exact h

theorem congr (h : t.AddsUpTo value a) (ha : a = a') : t.AddsUpTo value a' := ha ▸ h

end AddsUpTo

end Trail

/-! ## Pairs -/

/-- The value of a deposit: its vector, on its side. -/
noncomputable def Deposit.value (d : Deposit ℝ) : Side → Vector3 ℝ := Pi.single d.side d.amount

/-- The value of a contribution: its vector, on its side and for its accumulator. -/
noncomputable def Contribution.value (c : Contribution ℝ) : Target → Side → Vector3 ℝ :=
  Pi.single c.target (Pi.single c.side c.amount)

theorem Contribution.value_apply (c : Contribution ℝ) (target : Target) (side : Side) :
    c.value target side =
      if c.side = side then (Pi.single c.target c.amount : Target → Vector3 ℝ) target else 0 := by
  by_cases hs : c.side = side <;> by_cases ht : c.target = target <;>
    simp [Contribution.value, hs, ht]

/-- The amounts on the sides that are wanted. -/
noncomputable def Sides.masked (s : Sides (Vector3 ℝ)) (wanted : Sides Bool) : Side → Vector3 ℝ :=
  fun side => if wanted.get side then s.get side else 0

namespace Deposits

open Trail (AddsUpTo)

theorem addsUpTo_make (side : Side) (v : Vector3 ℝ) :
    AddsUpTo Deposit.value (make side v) (Pi.single side v) := AddsUpTo.emit _

/-- A part for each side, where wanted. -/
theorem addsUpTo_guardedSides (wanted : Sides Bool) {t u : Deposits ℝ Unit} {onI onJ : Vector3 ℝ}
    (first : AddsUpTo Deposit.value t (Pi.single .i onI))
    (second : AddsUpTo Deposit.value u (Pi.single .j onJ)) :
    AddsUpTo Deposit.value (Trail.guarded wanted.i t >>= fun _ => Trail.guarded wanted.j u)
      (Sides.masked ⟨onI, onJ⟩ wanted) := by
  have both := (first.guarded wanted.i).bind fun _ _ => second.guarded wanted.j
  refine both.congr ?_
  obtain ⟨i, j⟩ := wanted
  funext side
  cases side <;> cases i <;> cases j <;> simp [Sides.masked, Sides.get]

theorem addsUpTo_onSides (wanted : Sides Bool) (onI onJ : Vector3 ℝ) :
    AddsUpTo Deposit.value (onSides wanted onI onJ) (Sides.masked ⟨onI, onJ⟩ wanted) :=
  addsUpTo_guardedSides wanted (addsUpTo_make .i onI) (addsUpTo_make .j onJ)

/-- Multiples of one vector, with a minus sign on the first side. -/
theorem addsUpTo_along (wanted : Sides Bool) (v : Vector3 ℝ) {x x' : ℝ} (y : ℝ) (hx : x = -x') :
    AddsUpTo Deposit.value (onSides wanted (v.scale x) (v.scale y))
      (Sides.masked ⟨-x' • v, y • v⟩ wanted) := by
  rw [hx]
  exact addsUpTo_onSides wanted (v.scale (-x')) (v.scale y)

/-- Deposits amount to the same as contributions to one accumulator. -/
theorem addsUpTo_into {β : Type} {t : Deposits ℝ β} {a : Side → Vector3 ℝ} (target : Target)
    (h : AddsUpTo Deposit.value t a) :
    AddsUpTo Contribution.value (t.into target) (Pi.single target a) := by
  let single := AddMonoidHom.single (fun _ : Target => Side → Vector3 ℝ) target
  intro b hb
  change ((t.items.map fun d => ⟨target, d.side, d.amount⟩).map Contribution.value).sum = single a
  rw [← h b hb, map_list_sum, List.map_map, List.map_map]
  rfl

end Deposits

/-! ## Particles -/

namespace Particle

variable (q : Particle ℝ)

/-- A particle whose accumulators have received amounts. -/
noncomputable def receive (g : Target → Vector3 ℝ) : Particle ℝ :=
  { q with
    acceleration := q.acceleration + g .acceleration
    modifiedAcceleration := q.modifiedAcceleration + g .modifiedAcceleration }

@[simp] theorem receive_zero : q.receive 0 = q := by
  simp [receive]

@[simp] theorem receive_receive (g g' : Target → Vector3 ℝ) :
    (q.receive g).receive g' = q.receive (g + g') := by
  simp [receive, add_assoc]

theorem add_eq_receive (target : Target) (v : Vector3 ℝ) :
    q.add target v = q.receive (Pi.single target v) := by
  cases target <;> simp [add, receive]

end Particle

variable {n : Nat}

/-- What reaches a particle of the amounts on both sides of a pair. It may stand on both sides. -/
noncomputable def PairRow.reaching (row : PairRow n ℝ) (k : Fin n) :
    (Target → Side → Vector3 ℝ) →+ (Target → Vector3 ℝ) where
  toFun g target :=
    (if row.particles.i = k then g target .i else 0) +
      (if row.particles.j = k then g target .j else 0)
  map_zero' := by
    funext target
    simp
  map_add' g g' := by
    funext target
    split <;> split <;> simp [add_add_add_comm]

theorem PairRow.reaching_apply (row : PairRow n ℝ) (k : Fin n) (g : Target → Side → Vector3 ℝ)
    (target : Target) :
    row.reaching k g target =
      (if row.particles.i = k then g target .i else 0) +
        (if row.particles.j = k then g target .j else 0) := rfl

namespace Ensemble

variable (e : Ensemble n ℝ) (row : PairRow n ℝ) (k : Fin n)

theorem particle_contribute (c : Contribution ℝ) :
    (e.contribute row c).particles[k] = e.particles[k].receive (row.reaching k c.value) := by
  have reached : row.reaching k c.value =
      if row.particles.get c.side = k then Pi.single c.target c.amount else 0 := by
    funext other
    rw [PairRow.reaching_apply, c.value_apply, c.value_apply]
    cases c.side with
    | i => by_cases h : row.particles.i = k <;> simp [Sides.get, h]
    | j => by_cases h : row.particles.j = k <;> simp [Sides.get, h]
  rw [reached, contribute_particle]
  by_cases h : row.particles.get c.side = k
  · rw [if_pos h, if_pos h, Particle.add_eq_receive]
  · rw [if_neg h, if_neg h, Particle.receive_zero]

theorem particle_foldl_contribute (items : List (Contribution ℝ)) :
    (items.foldl (contribute row) e).particles[k] =
      e.particles[k].receive (row.reaching k (items.map Contribution.value).sum) := by
  induction items generalizing e with
  | nil => simp
  | cons c items ih =>
      rw [List.foldl_cons, ih, particle_contribute, Particle.receive_receive, List.map_cons,
        List.sum_cons, map_add]

/-- How a particle comes out of a sweep that meets no fault: each pair adds to it what reaches it of the
amounts on both sides, and nothing else changes. -/
theorem particle_sweep {contributions : PairInput n ℝ → Contributions ℝ Unit}
    {amount : PairInput n ℝ → Target → Side → Vector3 ℝ} {inputs : List (PairInput n ℝ)}
    (pairs : ∀ input ∈ inputs, (contributions input).AddsUpTo Contribution.value (amount input))
    (h : (e.sweep contributions inputs).2 = .ok ()) :
    (e.sweep contributions inputs).1.particles[k] =
      e.particles[k].receive
        (inputs.map fun input => input.row.reaching k (amount input)).sum := by
  induction inputs generalizing e with
  | nil => simp
  | cons input rest ih =>
      obtain ⟨first, others⟩ := List.forall_mem_cons.mp pairs
      obtain ⟨hr, hs⟩ := sweep_cons_eq_ok h
      rw [hs] at h ⊢
      rw [ih _ others h, particle_foldl_contribute, first () hr, Particle.receive_receive,
        List.map_cons, List.sum_cons]

end Ensemble

end ParticleMomentum
