import ParticleMomentum.Trail

/-!
# Laws of trails

How a trail and a procedure go on after their first part, and when one trail does whatever another one
does. `Trail.RefinedBy` is that comparison: a trail that ends with a fault asks nothing of the trail that
refines it, one that ends with a value fixes it entirely, items included. Refinements compose along the
steps of a computation, so two computations are compared step by step.
-/

namespace ParticleMomentum

/-- A result that comes about in two steps. -/
theorem bind_eq_ok_iff {ε β γ : Type} {r : Except ε β} {f : β → Except ε γ} {c : γ} :
    r >>= f = .ok c ↔ ∃ b, r = .ok b ∧ f b = .ok c := by
  cases r with
  | error e => simp [bind, Except.bind]
  | ok b => simp [bind, Except.bind]

/-- Two results agree that go on alike from the same first step. -/
theorem bind_congr_of_ok {ε β γ : Type} {r : Except ε β} {f g : β → Except ε γ}
    (h : ∀ b, r = .ok b → f b = g b) : r >>= f = r >>= g := by
  cases r with
  | error e => rfl
  | ok b => exact h b rfl

/-- A guard before the rest of a computation is passed just if its condition does not hold. -/
theorem guard_bind_eq_ok_iff {ε β : Type} {c : Prop} [Decidable c] {e : ε} {rest : Unit → Except ε β}
    {b : β} :
    (if c then throw e >>= rest else rest ()) = .ok b ↔ ¬ c ∧ rest () = .ok b := by
  split
  · next holds => exact ⟨nofun, fun h => absurd holds h.1⟩
  · next fails => exact ⟨fun h => ⟨fails, h⟩, fun h => h.2⟩

theorem pure_eq_ok_iff {ε β : Type} {b c : β} : (pure b : Except ε β) = .ok c ↔ c = b := by
  rw [eq_comm]
  exact Except.ok.injEq c b ▸ Iff.rfl

/-- A check of all items passes just if each of them passes. -/
theorem forM_eq_ok_iff {ε β : Type} {f : β → Except ε Unit} {l : List β} :
    l.forM f = .ok () ↔ ∀ b ∈ l, f b = .ok () := by
  induction l with
  | nil => exact ⟨fun _ b hb => (List.not_mem_nil hb).elim, fun _ => rfl⟩
  | cons b l ih =>
      rw [List.forall_mem_cons, ← ih]
      refine Iff.trans bind_eq_ok_iff ?_
      constructor
      · rintro ⟨⟨⟩, first, rest⟩
        exact ⟨first, rest⟩
      · rintro ⟨first, rest⟩
        exact ⟨(), first, rest⟩

/-- Items that all have a result have them in order. -/
theorem mapM_eq_ok_map {ε β γ : Type} {f : β → Except ε γ} {g : β → γ} {l : List β}
    (h : ∀ b ∈ l, f b = .ok (g b)) : l.mapM f = .ok (l.map g) := by
  induction l with
  | nil => rfl
  | cons b l ih =>
      obtain ⟨first, others⟩ := List.forall_mem_cons.mp h
      rw [List.mapM_cons, first, ih others]
      rfl

/-- Every fault that the result can be satisfies `P`. -/
def FaultsIn {ε β : Type} (P : ε → Prop) (r : Except ε β) : Prop := ∀ e, r = .error e → P e

namespace FaultsIn

variable {ε β γ : Type} {P : ε → Prop}

theorem ok (b : β) : FaultsIn P (.ok b) := by
  rintro e ⟨⟩

theorem error {e : ε} (h : P e) : FaultsIn P (.error e : Except ε β) := by
  rintro _ ⟨⟩
  exact h

theorem mono {P' : ε → Prop} {r : Except ε β} (h : FaultsIn P r) (weaker : ∀ e, P e → P' e) :
    FaultsIn P' r := fun e he => weaker e (h e he)

/-- The second part need only be looked at where the first one succeeds. -/
theorem bind_at {r : Except ε β} {f : β → Except ε γ} (first : FaultsIn P r)
    (rest : ∀ b, r = .ok b → FaultsIn P (f b)) : FaultsIn P (r >>= f) := by
  cases r with
  | error e =>
      rintro _ ⟨⟩
      exact first e rfl
  | ok b => exact rest b rfl

theorem bind {r : Except ε β} {f : β → Except ε γ} (first : FaultsIn P r)
    (rest : ∀ b, FaultsIn P (f b)) : FaultsIn P (r >>= f) :=
  bind_at first fun b _ => rest b

theorem guard_bind {c : Prop} [Decidable c] {e : ε} {rest : Unit → Except ε β} (refuses : P e)
    (passes : FaultsIn P (rest ())) :
    FaultsIn P (if c then throw e >>= rest else rest ()) := by
  split
  · exact error refuses
  · exact passes

theorem map {r : Except ε β} (f : β → γ) (h : FaultsIn P r) : FaultsIn P (r.map f) := by
  cases r with
  | error e => exact error (h e rfl)
  | ok b => exact ok _

theorem forM {f : β → Except ε Unit} {l : List β} (h : ∀ b ∈ l, FaultsIn P (f b)) :
    FaultsIn P (l.forM f) := by
  induction l with
  | nil => exact ok ()
  | cons b l ih =>
      obtain ⟨first, others⟩ := List.forall_mem_cons.mp h
      exact bind first fun _ => ih others

theorem mapM {f : β → Except ε γ} {l : List β} (h : ∀ b ∈ l, FaultsIn P (f b)) :
    FaultsIn P (l.mapM f) := by
  induction l with
  | nil => exact ok []
  | cons b l ih =>
      obtain ⟨first, others⟩ := List.forall_mem_cons.mp h
      rw [List.mapM_cons]
      exact bind first fun _ => bind (ih others) fun _ => ok _

end FaultsIn

namespace Trail

variable {ω ε β γ : Type}

@[simp] theorem pure_eq (b : β) : (pure b : Trail ω ε β) = ⟨[], .ok b⟩ := rfl

@[simp] theorem liftM_eq (r : Except ε β) : (liftM r : Trail ω ε β) = ⟨[], r⟩ := rfl

@[simp] theorem ok_bind (l : List ω) (b : β) (f : β → Trail ω ε γ) :
    (⟨l, .ok b⟩ : Trail ω ε β) >>= f = ⟨l ++ (f b).items, (f b).result⟩ := rfl

@[simp] theorem error_bind (l : List ω) (e : ε) (f : β → Trail ω ε γ) :
    (⟨l, .error e⟩ : Trail ω ε β) >>= f = ⟨l, .error e⟩ := rfl

@[simp] theorem lift_ok_bind (b : β) (f : β → Trail ω ε γ) :
    (liftM (.ok b : Except ε β) : Trail ω ε β) >>= f = f b := rfl

theorem bind_result (t : Trail ω ε β) (f : β → Trail ω ε γ) :
    (t >>= f).result = t.result.bind fun b => (f b).result := by
  obtain ⟨l, e | b⟩ := t <;> rfl

/-- A computation that ends with a value has done both of its parts. -/
theorem bind_result_eq_ok {t : Trail ω ε β} {f : β → Trail ω ε γ} {c : γ}
    (h : (t >>= f).result = .ok c) : ∃ b, t.result = .ok b ∧ (f b).result = .ok c := by
  obtain ⟨l, e | b⟩ := t
  · cases h
  · exact ⟨b, rfl, h⟩

/-- Two computations with the same first part agree if they go on alike from the value that it reaches. -/
theorem bind_congr {t : Trail ω ε β} {f g : β → Trail ω ε γ} (h : ∀ b, t.result = .ok b → f b = g b) :
    t >>= f = t >>= g := by
  obtain ⟨l, e | b⟩ := t
  · rfl
  · rw [ok_bind, ok_bind, h b rfl]

@[simp] theorem emit_eq (w : ω) : (emit w : Trail ω ε Unit) = ⟨[w], .ok ()⟩ := rfl

@[simp] theorem fail_eq (e : ε) : (fail e : Trail ω ε β) = ⟨[], .error e⟩ := rfl

@[simp] theorem guarded_true (t : Trail ω ε Unit) : guarded true t = t := rfl

@[simp] theorem guarded_false (t : Trail ω ε Unit) : guarded false t = ⟨[], .ok ()⟩ := rfl

/-! ## Trails without a fault -/

/-- The trail ends with a value. -/
def Ends (t : Trail ω ε β) : Prop := ∃ b, t.result = .ok b

namespace Ends

theorem ok (l : List ω) (b : β) : Ends (⟨l, .ok b⟩ : Trail ω ε β) := ⟨b, rfl⟩

theorem lift {r : Except ε β} (h : ∃ b, r = .ok b) : Ends (liftM r : Trail ω ε β) := h

theorem bind {t : Trail ω ε β} {f : β → Trail ω ε γ} (first : t.Ends)
    (rest : ∀ b, t.result = .ok b → (f b).Ends) : (t >>= f).Ends := by
  obtain ⟨b, hb⟩ := first
  obtain ⟨c, hc⟩ := rest b hb
  refine ⟨c, ?_⟩
  rw [bind_result, hb]
  exact hc

theorem guarded {t : Trail ω ε Unit} (c : Bool) (h : t.Ends) : (Trail.guarded c t).Ends := by
  cases c
  · exact ok [] ()
  · exact h

theorem result_eq {t : Trail ω ε Unit} (h : t.Ends) : t.result = .ok () := h.elim fun _ hb => hb

end Ends

/-! ## The faults of a trail -/

theorem faultsIn_bind {P : ε → Prop} {t : Trail ω ε β} {f : β → Trail ω ε γ}
    (first : FaultsIn P t.result) (rest : ∀ b, t.result = .ok b → FaultsIn P (f b).result) :
    FaultsIn P (t >>= f).result := by
  obtain ⟨l, e | b⟩ := t
  · rintro _ ⟨⟩
    exact first e rfl
  · exact rest b rfl

theorem faultsIn_guarded {P : ε → Prop} {t : Trail ω ε Unit} (c : Bool) (h : FaultsIn P t.result) :
    FaultsIn P (guarded c t).result := by
  cases c
  · exact FaultsIn.ok ()
  · exact h

/-! ## Refinement -/

/-- Whenever the first trail ends with a value, the second one is the same trail. -/
def RefinedBy (t u : Trail ω ε β) : Prop := ∀ b, t.result = .ok b → u = t

namespace RefinedBy

theorem refl (t : Trail ω ε β) : t.RefinedBy t := fun _ _ => rfl

theorem of_eq {t u : Trail ω ε β} (h : u = t) : t.RefinedBy u := fun _ _ => h

/-- A trail without a fault is refined by nothing but itself. -/
theorem eq_of_ends {t u : Trail ω ε β} (h : t.RefinedBy u) (ends : t.Ends) : u = t :=
  ends.elim h

/-- Two computations are compared step by step; the second steps start from a value that the first step
does reach. -/
theorem bind {t u : Trail ω ε β} {f g : β → Trail ω ε γ} (first : t.RefinedBy u)
    (rest : ∀ b, t.result = .ok b → (f b).RefinedBy (g b)) : (t >>= f).RefinedBy (u >>= g) := by
  intro c h
  obtain ⟨b, hb, hc⟩ := bind_result_eq_ok h
  rw [first b hb]
  obtain ⟨l, r⟩ := t
  subst hb
  rw [ok_bind, ok_bind, rest b rfl c hc]

theorem lift {r s : Except ε β} (h : ∀ b, r = .ok b → s = .ok b) :
    (liftM r : Trail ω ε β).RefinedBy (liftM s) := by
  intro b hb
  rw [liftM_eq, liftM_eq, h b hb, show r = .ok b from hb]

theorem guarded {t u : Trail ω ε Unit} (c : Bool) (h : t.RefinedBy u) :
    (Trail.guarded c t).RefinedBy (Trail.guarded c u) := by
  cases c
  · exact refl _
  · exact h

end RefinedBy

/-! ## Keeping some of the items -/

/-- Every item of the trail satisfies `P`. -/
def Emits (P : ω → Prop) (t : Trail ω ε β) : Prop := ∀ w ∈ t.items, P w

namespace Emits

variable {P : ω → Prop}

theorem silent (r : Except ε β) : Emits P (⟨[], r⟩ : Trail ω ε β) := fun _ hw =>
  absurd hw List.not_mem_nil

theorem emit {w : ω} (h : P w) : Emits P (emit w : Trail ω ε Unit) := by
  intro v hv
  rw [List.mem_singleton.mp hv]
  exact h

theorem bind {t : Trail ω ε β} {f : β → Trail ω ε γ} (first : t.Emits P) (rest : ∀ b, (f b).Emits P) :
    (t >>= f).Emits P := by
  obtain ⟨l, e | b⟩ := t
  · exact first
  · intro w hw
    rcases List.mem_append.mp hw with hw | hw
    · exact first w hw
    · exact rest b w hw

end Emits

/-- Whenever the first trail ends with a value, the second one ends with it too and consists of those
items of the first that are to be kept. -/
def KeptBy (keep : ω → Bool) (t u : Trail ω ε β) : Prop :=
  ∀ b, t.result = .ok b → u = ⟨t.items.filter keep, .ok b⟩

namespace KeptBy

variable {keep : ω → Bool}

theorem silent (r : Except ε β) : KeptBy keep (⟨[], r⟩ : Trail ω ε β) ⟨[], r⟩ := by
  rintro b ⟨⟩
  rfl

/-- A trail whose items are kept or dropped together is run just where they are kept. -/
theorem guarded_of_emits {own : Bool} {t : Trail ω ε Unit} (h : t.Emits (keep · = own)) :
    KeptBy keep (guarded true t) (guarded own t) := by
  intro b hb
  obtain ⟨l, r⟩ := t
  cases show r = .ok b from hb
  cases own
  · rw [guarded_false, guarded_true, List.filter_eq_nil_iff.mpr fun w hw => by simp [h w hw]]
  · rw [guarded_true, List.filter_eq_self.mpr h]

theorem bind {t u : Trail ω ε β} {f g : β → Trail ω ε γ} (first : KeptBy keep t u)
    (rest : ∀ b, KeptBy keep (f b) (g b)) : KeptBy keep (t >>= f) (u >>= g) := by
  intro c h
  obtain ⟨b, hb, hc⟩ := bind_result_eq_ok h
  rw [first b hb]
  obtain ⟨l, r⟩ := t
  subst hb
  rw [ok_bind, ok_bind, rest b c hc, List.filter_append]

theorem guarded {t u : Trail ω ε Unit} (c : Bool) (h : KeptBy keep t u) :
    KeptBy keep (Trail.guarded c t) (Trail.guarded c u) := by
  cases c
  · exact silent _
  · exact h

theorem ite {t u t' u' : Trail ω ε β} (c : Prop) [Decidable c] (h : KeptBy keep t u)
    (h' : KeptBy keep t' u') : KeptBy keep (if c then t else t') (if c then u else u') := by
  split
  · exact h
  · exact h'

/-- A trail need not be run where nothing of it is kept. -/
theorem guarded_of_none {own : Bool} {t u : Trail ω ε Unit} (h : KeptBy keep t u)
    (nothing : own = false → ∀ w, keep w = false) :
    KeptBy keep (Trail.guarded true t) (Trail.guarded own u) := by
  intro b hb
  cases own
  · rw [guarded_false, guarded_true,
      List.filter_eq_nil_iff.mpr fun w _ => by simp [nothing rfl w]]
  · exact h b hb

end KeptBy

end Trail

namespace Procedure

variable {σ ω ε β γ : Type}

@[simp] theorem state_bind (f : σ → Procedure σ ω ε γ) (s : σ) : (state >>= f) s = f s s := rfl

@[simp] theorem liftM_apply (t : Trail ω ε β) (s : σ) : (liftM t : Procedure σ ω ε β) s = (t, s) := rfl

@[simp] theorem liftM_except_apply (r : Except ε β) (s : σ) :
    (liftM r : Procedure σ ω ε β) s = (⟨[], r⟩, s) := rfl

@[simp] theorem emit_apply (w : ω) (s : σ) :
    (emit w : Procedure σ ω ε Unit) s = (⟨[w], .ok ()⟩, s) := rfl

@[simp] theorem update_apply (f : σ → σ) (s : σ) :
    (update f : Procedure σ ω ε Unit) s = (⟨[], .ok ()⟩, f s) := rfl

@[simp] theorem ofChange_apply (f : σ → σ × Except ε β) (s : σ) :
    (ofChange f : Procedure σ ω ε β) s = (⟨[], (f s).2⟩, (f s).1) := rfl

/-- A procedure whose first part ends with a value goes on in the state reached. -/
theorem bind_of_ok {p : Procedure σ ω ε β} {s s' : σ} {l : List ω} {b : β} (h : p s = (⟨l, .ok b⟩, s'))
    (f : β → Procedure σ ω ε γ) :
    (p >>= f) s = (⟨l ++ (f b s').1.items, (f b s').1.result⟩, (f b s').2) := by
  change Procedure.bind p f s = _
  simp only [Procedure.bind, h]

/-- A procedure whose first part ends with a fault ends there. -/
theorem bind_of_error {p : Procedure σ ω ε β} {s s' : σ} {l : List ω} {e : ε}
    (h : p s = (⟨l, .error e⟩, s')) (f : β → Procedure σ ω ε γ) :
    (p >>= f) s = (⟨l, .error e⟩, s') := by
  change Procedure.bind p f s = _
  simp only [Procedure.bind, h]

theorem bind_result (p : Procedure σ ω ε β) (f : β → Procedure σ ω ε γ) (s : σ) :
    ((p >>= f) s).1.result = (p s).1.result >>= fun b => (f b (p s).2).1.result := by
  rcases hp : p s with ⟨⟨l, e | b⟩, s'⟩
  · rw [bind_of_error hp]
    rfl
  · rw [bind_of_ok hp]
    rfl

/-- A procedure that ends with a value has done both of its parts. -/
theorem bind_result_eq_ok {p : Procedure σ ω ε β} {f : β → Procedure σ ω ε γ} {s : σ} {c : γ}
    (h : ((p >>= f) s).1.result = .ok c) :
    ∃ b, (p s).1.result = .ok b ∧ (f b (p s).2).1.result = .ok c ∧
      ((p >>= f) s).2 = (f b (p s).2).2 := by
  rcases hp : p s with ⟨⟨l, e | b⟩, s'⟩
  · rw [bind_of_error hp] at h
    cases h
  · rw [bind_of_ok hp] at h ⊢
    exact ⟨b, rfl, h, rfl⟩

/-- A procedure that ends with a fault has met it in its first part, or in its second one after the first
has ended with a value. -/
theorem bind_result_eq_error {p : Procedure σ ω ε β} {f : β → Procedure σ ω ε γ} {s : σ} {e : ε}
    (h : ((p >>= f) s).1.result = .error e) :
    ((p s).1.result = .error e ∧ ((p >>= f) s).2 = (p s).2) ∨
      ∃ b, (p s).1.result = .ok b ∧ (f b (p s).2).1.result = .error e ∧
        ((p >>= f) s).2 = (f b (p s).2).2 := by
  rcases hp : p s with ⟨⟨l, e' | b⟩, s'⟩
  · rw [bind_of_error hp] at h ⊢
    cases h
    exact .inl ⟨rfl, rfl⟩
  · rw [bind_of_ok hp] at h ⊢
    exact .inr ⟨b, rfl, h, rfl⟩

/-! ## What a procedure keeps -/

/-- A procedure keeps a property of the state, whether it ends with a value or with a fault. -/
def Keeps (P : σ → Prop) (p : Procedure σ ω ε β) : Prop := ∀ s, P s → P (p s).2

namespace Keeps

variable {P : σ → Prop} {p : Procedure σ ω ε β} {f : β → Procedure σ ω ε γ}

/-- A property holds after both parts if it holds after the first one, and the second part keeps it
there. -/
theorem bind_at {s : σ} (first : P (p s).2) (rest : ∀ b, (p s).1.result = .ok b → P (f b (p s).2).2) :
    P ((p >>= f) s).2 := by
  rcases hp : p s with ⟨⟨l, e | b⟩, s'⟩
  · rw [hp] at first
    rw [bind_of_error hp]
    exact first
  · rw [hp] at rest
    rw [bind_of_ok hp]
    exact rest b rfl

theorem bind (first : Keeps P p) (rest : ∀ b, Keeps P (f b)) : Keeps P (p >>= f) :=
  fun s hs => bind_at (first s hs) fun b _ => rest b _ (first s hs)

/-- A procedure that looks at the state goes on from a state with the property. -/
theorem state_bind {f : σ → Procedure σ ω ε γ} (h : ∀ s, P s → Keeps P (f s)) :
    Keeps P (state >>= f) := fun s hs => h s hs s hs

theorem ofTrail (t : Trail ω ε β) : Keeps P (ofTrail t : Procedure σ ω ε β) := fun _ hs => hs

theorem lift_bind {r : Except ε β} (h : ∀ b, r = .ok b → Keeps P (f b)) :
    Keeps P ((liftM r : Procedure σ ω ε β) >>= f) := by
  cases r with
  | error e => exact fun _ hs => hs
  | ok b => exact h b rfl

theorem pure (b : β) : Keeps P (pure b : Procedure σ ω ε β) := fun _ hs => hs

theorem update {f : σ → σ} (h : ∀ s, P s → P (f s)) : Keeps P (update f : Procedure σ ω ε Unit) := h

end Keeps

/-! ## What a procedure ensures -/

/-- From a state with `P`, a procedure that ends with a value has that value and the state then reached
satisfy `Q`. -/
def Ensures (P : σ → Prop) (p : Procedure σ ω ε β) (Q : β → σ → Prop) : Prop :=
  ∀ s, P s → ∀ b, (p s).1.result = .ok b → Q b (p s).2

namespace Ensures

variable {P : σ → Prop} {Q : β → σ → Prop} {R : γ → σ → Prop} {p : Procedure σ ω ε β}
variable {f : β → Procedure σ ω ε γ}

theorem bind (first : Ensures P p Q) (rest : ∀ b, Ensures (Q b) (f b) R) :
    Ensures P (p >>= f) R := by
  intro s hs c h
  obtain ⟨b, hb, hc, hstate⟩ := bind_result_eq_ok h
  rw [hstate]
  exact rest b _ (first s hs b hb) c hc

theorem consequence {P' : σ → Prop} {Q' : β → σ → Prop} (h : Ensures P p Q) (pre : ∀ s, P' s → P s)
    (post : ∀ b s, Q b s → Q' b s) : Ensures P' p Q' :=
  fun s hs b hb => post b _ (h s (pre s hs) b hb)

theorem pure {b : β} (h : ∀ s, P s → Q b s) : Ensures P (pure b : Procedure σ ω ε β) Q := by
  intro s hs c hc
  cases hc
  exact h s hs

theorem fail (e : ε) : Ensures P (fail e : Procedure σ ω ε β) Q := by
  intro s _ b hb
  cases hb

/-- A procedure that looks at the state goes on from that state. -/
theorem state_bind {f : σ → Procedure σ ω ε γ} (h : ∀ s, P s → Ensures (· = s) (f s) R) :
    Ensures P (state >>= f) R := by
  intro s hs c hc
  exact h s hs s rfl c hc

theorem update {f : σ → σ} {Q : Unit → σ → Prop} (h : ∀ s, P s → Q () (f s)) :
    Ensures P (update f : Procedure σ ω ε Unit) Q := fun s hs _ _ => h s hs

theorem emit (w : ω) : Ensures P (emit w : Procedure σ ω ε Unit) fun _ => P := fun _ hs _ _ => hs

/-- A step that does not look at the state leaves the next step what it starts from. -/
theorem lift_bind {t : Trail ω ε β} (h : ∀ b, t.result = .ok b → Ensures P (f b) R) :
    Ensures P ((liftM t : Procedure σ ω ε β) >>= f) R := by
  intro s hs c hc
  obtain ⟨b, hb, hc, hstate⟩ := bind_result_eq_ok hc
  rw [hstate]
  exact h b hb s hs c hc

theorem liftExcept_bind {r : Except ε β} (h : ∀ b, r = .ok b → Ensures P (f b) R) :
    Ensures P ((liftM r : Procedure σ ω ε β) >>= f) R :=
  lift_bind (t := ⟨[], r⟩) h

theorem ofChange {f : σ → σ × Except ε β} (h : ∀ s b, P s → (f s).2 = .ok b → Q b (f s).1) :
    Ensures P (ofChange f : Procedure σ ω ε β) Q := fun s hs b hb => h s b hs hb

end Ensures

/-! ## What can stop a procedure -/

/-- From a state with `P`, every fault that stops a procedure satisfies `F`. -/
def StopsIn (P : σ → Prop) (F : ε → Prop) (p : Procedure σ ω ε β) : Prop :=
  ∀ s, P s → FaultsIn F (p s).1.result

namespace StopsIn

variable {P : σ → Prop} {F : ε → Prop} {p : Procedure σ ω ε β} {f : β → Procedure σ ω ε γ}

/-- The second part starts from what the first one ensures. -/
theorem bind {Q : β → σ → Prop} (first : StopsIn P F p) (between : Ensures P p Q)
    (rest : ∀ b, StopsIn (Q b) F (f b)) : StopsIn P F (p >>= f) := by
  intro s hs e he
  rcases bind_result_eq_error he with ⟨h, -⟩ | ⟨b, hb, h, -⟩
  · exact first s hs e h
  · exact rest b _ (between s hs b hb) e h

/-- A procedure that looks at the state goes on from that state. -/
theorem state_bind {f : σ → Procedure σ ω ε γ} (h : ∀ s, P s → StopsIn (· = s) F (f s)) :
    StopsIn P F (state >>= f) := by
  intro s hs
  exact h s hs s rfl

theorem lift_bind {t : Trail ω ε β} (first : FaultsIn F t.result)
    (rest : ∀ b, t.result = .ok b → StopsIn P F (f b)) :
    StopsIn P F ((liftM t : Procedure σ ω ε β) >>= f) := by
  intro s hs e he
  rcases bind_result_eq_error he with ⟨h, -⟩ | ⟨b, hb, h, -⟩
  · exact first e h
  · exact rest b hb s hs e h

theorem liftExcept_bind {r : Except ε β} (first : FaultsIn F r)
    (rest : ∀ b, r = .ok b → StopsIn P F (f b)) :
    StopsIn P F ((liftM r : Procedure σ ω ε β) >>= f) :=
  lift_bind (t := ⟨[], r⟩) first rest

theorem fail {e : ε} (h : F e) : StopsIn P F (fail e : Procedure σ ω ε β) :=
  fun _ _ => FaultsIn.error h

theorem emit (w : ω) : StopsIn P F (emit w : Procedure σ ω ε Unit) := fun _ _ => FaultsIn.ok ()

theorem ofChange {f : σ → σ × Except ε β} (h : ∀ s, P s → FaultsIn F (f s).2) :
    StopsIn P F (ofChange f : Procedure σ ω ε β) := h

end StopsIn

/-! ## Where a procedure leads -/

/-- From a state a procedure ends with a value, in a further state. -/
def Reaches (p : Procedure σ ω ε β) (s : σ) (b : β) (s' : σ) : Prop :=
  (p s).1.result = .ok b ∧ (p s).2 = s'

namespace Reaches

variable {p : Procedure σ ω ε β} {f : β → Procedure σ ω ε γ} {s s' s'' : σ} {b : β} {c : γ}

theorem pure (b : β) (s : σ) : (pure b : Procedure σ ω ε β).Reaches s b s := ⟨rfl, rfl⟩

theorem emit (w : ω) (s : σ) : (emit w : Procedure σ ω ε Unit).Reaches s () s := ⟨rfl, rfl⟩

theorem update (f : σ → σ) (s : σ) : (update f : Procedure σ ω ε Unit).Reaches s () (f s) := ⟨rfl, rfl⟩

theorem bind (first : p.Reaches s b s') (rest : (f b).Reaches s' c s'') : (p >>= f).Reaches s c s'' := by
  obtain ⟨hb, rfl⟩ := first
  rcases hp : p s with ⟨⟨l, r⟩, t⟩
  rw [hp] at hb rest
  cases show r = .ok b from hb
  rw [Reaches, bind_of_ok hp]
  exact rest

/-- After a first part that leads somewhere, a procedure ends as it does from there. -/
theorem bind_result (first : p.Reaches s b s') : ((p >>= f) s).1.result = (f b s').1.result := by
  rw [Procedure.bind_result, first.1, first.2]
  rfl

/-- A procedure that looks at the state goes on from that state. -/
theorem state_bind {f : σ → Procedure σ ω ε γ} (h : (f s).Reaches s c s') :
    (state >>= f).Reaches s c s' := h

theorem lift_bind {r : Except ε β} (hr : r = .ok b) (rest : (f b).Reaches s c s') :
    ((liftM r : Procedure σ ω ε β) >>= f).Reaches s c s' := by
  subst hr
  exact bind ⟨rfl, rfl⟩ rest

end Reaches

end Procedure

end ParticleMomentum
