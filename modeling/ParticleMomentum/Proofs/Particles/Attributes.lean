import ParticleMomentum.Proofs.Particles
import ParticleMomentum.Proofs.Particles.Blocks

/-!
# Reading attributes by index

An attribute of an ensemble is read at an index: the number of a particle and, where the attribute is a
vector, the number of a component. What changes one attribute of the particles is seen there and at no
other attribute.
-/

namespace ParticleMomentum

-- the one of a product of sizes is the numeral
attribute [local instance (high)] One.ofOfNat1

variable {α : Type}

/-! ## Names -/

/-- An attribute is found by its name. -/
theorem Attribute.ofName?_name (a : Attribute) : ofName? a.name = some a := by
  rcases a with v | s | _
  · cases v <;> decide
  · cases s <;> decide
  · decide

theorem Attribute.ofName?_eq_some_iff {s : String} {a : Attribute} :
    ofName? s = some a ↔ s = a.name := by
  constructor
  · intro h
    exact (by simpa using List.find?_some h : a.name = s).symm
  · rintro rfl
    exact a.ofName?_name

def Attribute.label (a : Attribute) : Setting α := .text a.name

/-- An attribute is named just by its label. -/
theorem Ensemble.attributeOf_eq_ok_iff {name : Setting α} {a : Attribute} :
    attributeOf name = .ok a ↔ name = a.label := by
  cases name with
  | text s =>
      rw [attributeOf, Attribute.label, Setting.text.injEq, ← Attribute.ofName?_eq_some_iff]
      split
      · next found => rw [found, Except.ok.injEq, Option.some.injEq]
      · next missing => simp [missing]
  | null | flag | whole | real | sequence | record => exact ⟨nofun, nofun⟩

/-! ## Entries of a particle -/

def Vector3.at? (v : Vector3 α) : List Nat → Option (Entry α)
  | [c] => if h : c < 3 then some (.number (v.get ⟨c, h⟩)) else none
  | _ => none

/-- An entry that is alone. -/
def Entry.at? (x : Entry α) : List Nat → Option (Entry α)
  | [] => some x
  | _ => none

/-- The entry of an attribute at a place in its row. -/
def Particle.at? (p : Particle α) : Attribute → List Nat → Option (Entry α)
  | .vector v => (v.get p).at?
  | .scalar s => (Entry.number (s.get p)).at?
  | .owned => (Entry.flag p.owned).at?

/-- The places in a row of an attribute. -/
def Attribute.places : Attribute → List (List Nat)
  | .vector _ => [[0], [1], [2]]
  | .scalar _ | .owned => [[]]

namespace Attribute

variable {a : Attribute} {place : List Nat}

/-- The places in a row are those of a block of its shape. -/
theorem exists_place?_of_mem_places (h : place ∈ a.places) :
    ∃ c : Fin a.row.prod, Block.place? a.row place = some c.val := by
  rcases a with v | s | _
  · simp only [places, List.mem_cons, List.not_mem_nil, or_false] at h
    rcases h with rfl | rfl | rfl
    · exact ⟨(0 : Fin 3), rfl⟩
    · exact ⟨(1 : Fin 3), rfl⟩
    · exact ⟨(2 : Fin 3), rfl⟩
  · cases List.mem_singleton.mp h
    exact ⟨(0 : Fin 1), rfl⟩
  · cases List.mem_singleton.mp h
    exact ⟨(0 : Fin 1), rfl⟩

/-- A row of one entry has it in front. -/
theorem place?_nil {c : Nat} (h : Block.place? [] place = some c) : place = [] ∧ c = 0 := by
  cases place with
  | nil => exact ⟨rfl, (Option.some.inj h).symm⟩
  | cons => cases h

/-- A row of three entries has them at the numbers of the components. -/
theorem place?_three {c : Nat} (h : Block.place? [3] place = some c) : place = [c] ∧ c < 3 := by
  have length := Block.length_eq_of_place? h
  obtain ⟨d, rfl⟩ := List.length_eq_one_iff.mp length
  rw [Block.place?] at h
  split at h
  · next inside =>
    have same : d * 1 = c := Option.some.inj h
    rw [Nat.mul_one] at same
    exact ⟨congrArg (fun d => [d]) same, same ▸ inside⟩
  · cases h

end Attribute

namespace Particle

variable (p : Particle α) (b : Attribute) (place : List Nat)

theorem at?_vector (a : VectorAttribute) (v : Vector3 α) :
    (a.put p v).at? b place = if b = .vector a then v.at? place else p.at? b place := by
  rcases b with b | b | _
  · cases a <;> cases b <;> rfl
  · cases a <;> cases b <;> rfl
  · cases a <;> rfl

theorem at?_scalar (a : ScalarAttribute) (x : α) :
    (a.put p x).at? b place = if b = .scalar a then (Entry.number x).at? place else p.at? b place := by
  rcases b with b | b | _
  · cases a <;> cases b <;> rfl
  · cases a <;> cases b <;> rfl
  · cases a <;> rfl

theorem at?_owned (x : Bool) :
    ({ p with owned := x } : Particle α).at? b place =
      if b = .owned then (Entry.flag x).at? place else p.at? b place := by
  rcases b with b | b | _ <;> rfl

end Particle

/-! ## Entries of an ensemble -/

namespace Ensemble

variable {n : Nat} {p : Precision}

/-- The entry of an attribute at an index: the number of a particle, then the place in the row. -/
def at? (e : Ensemble n α p) (a : Attribute) : List Nat → Option (Entry α)
  | k :: place => if h : k < n then e.particles[k].at? a place else none
  | [] => none

theorem at?_particle (e : Ensemble n α p) (a : Attribute) (k : Fin n) (place : List Nat) :
    e.at? a (k :: place) = e.particles[k].at? a place :=
  dif_pos k.isLt

/-- Two ensembles with the same entries at a particle's indices have them at all indices. -/
theorem at?_congr {e e' : Ensemble n α p} {a : Attribute}
    (h : ∀ (k : Fin n) place, e.particles[k].at? a place = e'.particles[k].at? a place)
    (index : List Nat) : e.at? a index = e'.at? a index := by
  cases index with
  | nil => rfl
  | cons k place =>
      rw [at?, at?]
      split
      · next inside => exact h ⟨k, inside⟩ place
      · rfl

/-! ### The block of an attribute -/

theorem column_shape (e : Ensemble n α p) (a : Attribute) : (e.column a).shape = a.shape n := by
  cases a <;> rfl

theorem column_vector (e : Ensemble n α p) (v : VectorAttribute) (k : Fin n) (c : Fin 3) :
    (e.column (.vector v)).entries[k.val * 3 + c.val]? =
      some (.number ((v.get e.particles[k]).get c)) := by
  have below : k.val * 3 + c.val < n * 3 := by omega
  have row : (k.val * 3 + c.val) / 3 = k.val := by omega
  have component : (k.val * 3 + c.val) % 3 = c.val := by omega
  refine Array.getElem?_ofFn.trans ((dif_pos below).trans ?_)
  simp only [row, component]
  rfl

theorem column_scalar (e : Ensemble n α p) (s : ScalarAttribute) (k : Fin n) :
    (e.column (.scalar s)).entries[k.val]? = some (.number (s.get e.particles[k])) :=
  Array.getElem?_ofFn.trans (dif_pos k.isLt)

theorem column_owned (e : Ensemble n α p) (k : Fin n) :
    (e.column .owned).entries[k.val]? = some (.flag e.particles[k].owned) :=
  Array.getElem?_ofFn.trans (dif_pos k.isLt)

theorem column_entry (e : Ensemble n α p) (a : Attribute) (k : Fin n) (place : List Nat) :
    (((Block.place? a.row place).map (k.val * a.row.prod + ·)).bind ((e.column a).entries[·]?)) =
      e.particles[k].at? a place := by
  rcases a with v | s | _
  · match place with
    | [] => rfl
    | [c] =>
        by_cases inside : c < 3
        · have there : Block.place? [3] [c] = some c :=
            (if_pos inside).trans (congrArg some (Nat.mul_one c))
          rw [show Attribute.row (.vector v) = [3] from rfl, there, Particle.at?, Vector3.at?,
            dif_pos inside]
          exact e.column_vector v k ⟨c, inside⟩
        · rw [show Attribute.row (.vector v) = [3] from rfl, Block.place?, if_neg inside, Particle.at?,
            Vector3.at?, dif_neg inside]
          rfl
    | c :: d :: rest =>
        rw [show Attribute.row (.vector v) = [3] from rfl, Block.place?]
        split <;> rfl
  · cases place with
    | nil =>
        refine Eq.trans ?_ (e.column_scalar s k)
        exact congrArg ((e.column (.scalar s)).entries[·]?) (Nat.mul_one k.val)
    | cons => rfl
  · cases place with
    | nil =>
        refine Eq.trans ?_ (e.column_owned k)
        exact congrArg ((e.column .owned).entries[·]?) (Nat.mul_one k.val)
    | cons => rfl

/-- The block of an attribute has its entries at their indices. -/
theorem column_at? (e : Ensemble n α p) (a : Attribute) (index : List Nat) :
    (e.column a).at? index = e.at? a index := by
  have shape : (e.column a).shape = n :: a.row := e.column_shape a
  cases index with
  | nil =>
      rw [Block.at?, shape]
      rfl
  | cons k place =>
      rw [Block.at?, shape, Block.place?, at?]
      by_cases inside : k < n
      · rw [if_pos inside, dif_pos inside]
        exact e.column_entry a ⟨k, inside⟩ place
      · rw [if_neg inside, dif_neg inside]
        rfl

end Ensemble

end ParticleMomentum
