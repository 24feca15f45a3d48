import ParticleMomentum.Arithmetic.Double
import ParticleMomentum.Proofs.Particles.Attributes

/-!
# Attributes set to zero

Listed attributes are set to zero one after the other, and a name is looked up only when its turn comes.
So a list of known names sets just these attributes to zero, and a list with an unknown name is refused
when the attributes in front of that name have been set to zero already.
-/

namespace ParticleMomentum

variable {α : Type} [Arithmetic α]

/-- What the entries of an attribute are when it has been set to zero. -/
def Attribute.zero : Attribute → Entry α
  | .vector _ | .scalar _ => .number 0.0
  | .owned => .flag false

theorem Vector3.zero_at? (v : Vector3 α) (place : List Nat) :
    (zero : Vector3 α).at? place = (v.at? place).map fun _ => .number 0.0 := by
  have component (c : Fin 3) : (zero : Vector3 α).get c = 0.0 :=
    match c with
    | 0 | 1 | 2 => rfl
  unfold Vector3.at?
  split
  · next c =>
    by_cases inside : c < 3
    · rw [dif_pos inside, dif_pos inside, component]
      rfl
    · rw [dif_neg inside, dif_neg inside]
      rfl
  · rfl

omit [Arithmetic α] in
theorem Entry.at?_eq_map (zero x : Entry α) (place : List Nat) :
    zero.at? place = (x.at? place).map fun _ => zero := by
  cases place <;> rfl

namespace Ensemble

variable {n : Nat} {p : Precision} {e e' e'' : Ensemble n α p} {attributes : List Attribute}

/-! ## One attribute -/

theorem clear_particle (e : Ensemble n α p) (a b : Attribute) (k : Fin n) (place : List Nat) :
    (e.clear a).particles[k].at? b place =
      if b = a then (e.particles[k].at? b place).map fun _ => b.zero
      else e.particles[k].at? b place := by
  by_cases same : b = a
  · subst same
    rw [if_pos rfl]
    rcases b with v | s | _
    · rw [clear, mapParticles_particle, Particle.at?_vector, if_pos rfl]
      exact Vector3.zero_at? _ place
    · rw [clear, mapParticles_particle, Particle.at?_scalar, if_pos rfl]
      exact Entry.at?_eq_map _ _ place
    · rw [clear, mapParticles_particle, Particle.at?_owned, if_pos rfl]
      exact Entry.at?_eq_map _ _ place
  · rw [if_neg same]
    rcases a with v | s | _
    · rw [clear, mapParticles_particle, Particle.at?_vector, if_neg same]
    · rw [clear, mapParticles_particle, Particle.at?_scalar, if_neg same]
    · rw [clear, mapParticles_particle, Particle.at?_owned, if_neg same]

theorem clear_at? (e : Ensemble n α p) (a b : Attribute) (index : List Nat) :
    (e.clear a).at? b index =
      if b = a then (e.at? b index).map fun _ => b.zero else e.at? b index := by
  cases index with
  | nil =>
      change none = if b = a then none else none
      rw [ite_self]
  | cons k place =>
      by_cases inside : k < n
      · have there (e : Ensemble n α p) := e.at?_particle b ⟨k, inside⟩ place
        rw [there, there, clear_particle]
      · have nowhere (e : Ensemble n α p) : e.at? b (k :: place) = none := dif_neg inside
        rw [nowhere, nowhere, Option.map_none, ite_self]

/-! ## Listed attributes -/

/-- An ensemble is another one with some attributes set to zero: all their entries are zero, and those of
the other attributes are as they were. -/
structure ClearedFrom (e : Ensemble n α p) (attributes : List Attribute) (e' : Ensemble n α p) :
    Prop where
  entry : ∀ a index,
    e'.at? a index = if a ∈ attributes then (e.at? a index).map fun _ => a.zero else e.at? a index

theorem clearedFrom_nil (e : Ensemble n α p) : e.ClearedFrom [] e :=
  ⟨fun _ _ => rfl⟩

/-- One attribute more is set to zero in front of the others. It may be among them. -/
theorem ClearedFrom.cons (a : Attribute) (h : (e.clear a).ClearedFrom attributes e') :
    e.ClearedFrom (a :: attributes) e' := by
  refine ⟨fun b index => ?_⟩
  rw [h.entry, clear_at?]
  by_cases first : b = a
  · subst first
    rw [if_pos rfl, if_pos List.mem_cons_self, Option.map_map]
    exact ite_self _
  · simp only [first, List.mem_cons, false_or, if_false]

/-- Known names in front of others have their attributes set to zero, whatever comes after them. -/
theorem clearNamed_append (e : Ensemble n α p) (attributes : List Attribute) (rest : List (Setting α)) :
    ∃ e', e.ClearedFrom attributes e' ∧
      e.clearNamed (attributes.map Attribute.label ++ rest) = e'.clearNamed rest := by
  induction attributes generalizing e with
  | nil => exact ⟨e, clearedFrom_nil e, rfl⟩
  | cons a attributes ih =>
      obtain ⟨e', cleared, goesOn⟩ := ih (e.clear a)
      refine ⟨e', cleared.cons a, ?_⟩
      rw [List.map_cons, List.cons_append, clearNamed, attributeOf_eq_ok_iff.mpr rfl]
      exact goesOn

omit [Arithmetic α] in
/-- Names are all known, or there is a first one that is not. -/
theorem names_cases (names : List (Setting α)) :
    (∃ attributes : List Attribute, names = attributes.map Attribute.label) ∨
    ∃ (attributes : List Attribute) (unknown : Setting α) (rest : List (Setting α)) (fault : Fault α),
      names = attributes.map Attribute.label ++ unknown :: rest ∧ attributeOf unknown = .error fault := by
  induction names with
  | nil => exact .inl ⟨[], rfl⟩
  | cons name names ih =>
      rcases found : attributeOf name with fault | a
      · exact .inr ⟨[], name, names, fault, rfl, found⟩
      · have label := attributeOf_eq_ok_iff.mp found
        subst label
        rcases ih with ⟨attributes, rfl⟩ | ⟨attributes, unknown, rest, fault, rfl, missing⟩
        · exact .inl ⟨a :: attributes, rfl⟩
        · exact .inr ⟨a :: attributes, unknown, rest, fault, rfl, missing⟩

/-- What becomes of an ensemble when names are dealt with in order: their attributes are set to zero if all
names are known, and else those that come in front of the first unknown name, which is refused. -/
def ZeroesInOrder (e : Ensemble n α p) (names : List (Setting α))
    (outcome : Ensemble n α p × Except (Fault α) Unit) : Prop :=
  (∃ attributes : List Attribute, names = attributes.map Attribute.label ∧
    outcome.2 = .ok () ∧ e.ClearedFrom attributes outcome.1) ∨
  ∃ (attributes : List Attribute) (unknown : Setting α) (rest : List (Setting α)) (fault : Fault α),
    names = attributes.map Attribute.label ++ unknown :: rest ∧ attributeOf unknown = .error fault ∧
    outcome.2 = .error fault ∧ e.ClearedFrom attributes outcome.1

theorem clearNamed_zeroesInOrder (e : Ensemble n α p) (names : List (Setting α)) :
    e.ZeroesInOrder names (e.clearNamed names) := by
  rcases names_cases names with ⟨attributes, rfl⟩ | ⟨attributes, unknown, rest, fault, rfl, missing⟩
  · obtain ⟨e', cleared, ends⟩ := e.clearNamed_append attributes []
    rw [List.append_nil, clearNamed] at ends
    rw [ends]
    exact .inl ⟨attributes, rfl, rfl, cleared⟩
  · obtain ⟨e', cleared, stops⟩ := e.clearNamed_append attributes (unknown :: rest)
    rw [clearNamed, missing] at stops
    rw [stops]
    exact .inr ⟨attributes, unknown, rest, fault, rfl, missing, rfl, cleared⟩

/-- Attributes are set to zero in the order of their names, which are the items of a sequence or the words
of a text. If all names are known, these attributes are zero and nothing else has changed. The first name
that is not known is refused, and then exactly the attributes in front of it are zero. -/
theorem zero_zeroesInOrder (e : Ensemble n α p) :
    (∀ items, e.ZeroesInOrder items (e.zero (.sequence items))) ∧
    ∀ s, e.ZeroesInOrder ((Text.words s.toList).map fun w => .text (String.ofList w))
      (e.zero (.text s)) :=
  ⟨fun items => e.clearNamed_zeroesInOrder items, fun _ => e.clearNamed_zeroesInOrder _⟩

/-- A list of names may be refused when some attributes have been set to zero already. -/
theorem refused_zero_clears :
    ¬ ∀ (n : Nat) (e : Ensemble n Float) (items : List (Setting Float)) (fault : Fault Float),
      (e.zero (.sequence items)).2 = .error fault → (e.zero (.sequence items)).1 = e := by
  intro atomic
  have same := atomic 1 (fresh 1 .double) [.text "masses", .text "bogus"]
    (.unknownAttribute (.text "bogus")) rfl
  have mass := congrArg (fun e : Ensemble 1 Float => (e.particles[0]).mass) same
  -- the mass of a fresh particle is one
  have differs : (0.0 : Float) ≠ 1.0 := by decide +kernel
  exact differs mass

end Ensemble

end ParticleMomentum
