/-!
# Trails

A computation that may stop leaves behind what it produced up to then. `Trail ω ε β` is such a record:
the items produced, in order, and a result that is either a value or the fault that stopped it.
`Procedure σ ω ε β` is a computation with a trail on a state of its own, which outlives a fault.
-/

namespace ParticleMomentum

/-- Items produced in order, and how the production ended. -/
structure Trail (ω ε β : Type) where
  items : List ω
  result : Except ε β

namespace Trail

variable {ω ε β γ : Type}

/-- Ends with a value and produces nothing. -/
protected def pure (b : β) : Trail ω ε β := ⟨[], .ok b⟩

/-- Goes on with the value, after the items so far; a fault ends the trail. -/
protected def bind (t : Trail ω ε β) (f : β → Trail ω ε γ) : Trail ω ε γ :=
  match t.result with
  | .ok b => ⟨t.items ++ (f b).items, (f b).result⟩
  | .error e => ⟨t.items, .error e⟩

instance : Monad (Trail ω ε) where
  pure := Trail.pure
  bind := Trail.bind

def emit (w : ω) : Trail ω ε Unit := ⟨[w], .ok ()⟩

def fail (e : ε) : Trail ω ε β := ⟨[], .error e⟩

/-- A result that comes with no items. -/
def ofExcept (r : Except ε β) : Trail ω ε β := ⟨[], r⟩

instance : MonadLift (Except ε) (Trail ω ε) := ⟨Trail.ofExcept⟩

/-- The trail of a computation that runs only on a condition. -/
def guarded (c : Bool) (t : Trail ω ε Unit) : Trail ω ε Unit := if c then t else .pure ()

end Trail

/-- A computation on a state. The state after it is known also where a fault ended it. -/
def Procedure (σ ω ε β : Type) : Type := σ → Trail ω ε β × σ

namespace Procedure

variable {σ ω ε β γ : Type}

/-- Ends with a value and leaves the state alone. -/
protected def pure (b : β) : Procedure σ ω ε β := fun s => (.pure b, s)

/-- Goes on with the value in the state reached; a fault ends the procedure there. -/
protected def bind (p : Procedure σ ω ε β) (f : β → Procedure σ ω ε γ) : Procedure σ ω ε γ := fun s =>
  let (t, s') := p s
  match t.result with
  | .ok b =>
    let (t', s'') := f b s'
    (⟨t.items ++ t'.items, t'.result⟩, s'')
  | .error e => (⟨t.items, .error e⟩, s')

instance : Monad (Procedure σ ω ε) where
  pure := Procedure.pure
  bind := Procedure.bind

def state : Procedure σ ω ε σ := fun s => (.pure s, s)

def update (f : σ → σ) : Procedure σ ω ε Unit := fun s => (.pure (), f s)

/-- A trail that does not look at the state. -/
def ofTrail (t : Trail ω ε β) : Procedure σ ω ε β := fun s => (t, s)

instance : MonadLift (Trail ω ε) (Procedure σ ω ε) := ⟨ofTrail⟩

def emit (w : ω) : Procedure σ ω ε Unit := ofTrail (Trail.emit w)

def fail (e : ε) : Procedure σ ω ε β := ofTrail (Trail.fail e)

/-- A change of the state that may end in a fault, and may have changed the state all the same. -/
def ofChange (f : σ → σ × Except ε β) : Procedure σ ω ε β := fun s =>
  (Trail.ofExcept (f s).2, (f s).1)

/-- Runs a procedure and keeps only its trail. -/
def run (p : Procedure σ ω ε β) (s : σ) : Trail ω ε β := (p s).1

end Procedure

end ParticleMomentum
