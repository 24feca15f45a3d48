import ParticleMomentum.Proofs.Particles.Attributes
import ParticleMomentum.Proofs.Trail

/-!
# The layout of an ensemble

Whatever is set, copied, written or zeroed, and whether it succeeds or is refused, each attribute keeps
its shape and its kind of entries. An attribute is set from data that is one entry, one row, or one row
for each particle; data of any other shape is refused, and a refused change leaves the ensemble as it
was.
-/

namespace ParticleMomentum

-- the one of a product of sizes is the numeral
attribute [local instance (high)] One.ofOfNat1

variable {α : Type}

theorem Vector3.get_ofFn (f : Fin 3 → α) (c : Fin 3) : (ofFn f).get c = f c :=
  match c with
  | 0 | 1 | 2 => rfl

theorem Vector3.get_set (v : Vector3 α) (c d : Fin 3) (x : α) :
    (v.set c x).get d = if d = c then x else v.get d :=
  match c, d with
  | 0, 0 | 0, 1 | 0, 2 | 1, 0 | 1, 1 | 1, 2 | 2, 0 | 2, 1 | 2, 2 => rfl

variable [Arithmetic α]

/-! ## Setting an attribute -/

namespace Attribute

/-- An entry of data as it is kept in an attribute. -/
def convert (p : Precision) : Attribute → Entry α → Entry α
  | .owned, x => .flag x.toFlag
  | .vector _, x | .scalar _, x => .number (p.round x.toReal)

/-- A particle with an attribute set from a row of data. -/
def fill (p : Precision) : (a : Attribute) → (Fin a.row.prod → Entry α) → Particle α → Particle α
  | .vector v, row, q => v.put q (Vector3.ofFn fun c : Fin 3 => p.round (row c).toReal)
  | .scalar s, row, q => s.put q (p.round (row ⟨0, Nat.one_pos⟩).toReal)
  | .owned, row, q => { q with owned := (row ⟨0, Nat.one_pos⟩).toFlag }

variable {a b : Attribute} {place : List Nat}

theorem at?_fill_self (p : Precision) (row : Fin a.row.prod → Entry α) (q : Particle α)
    {c : Fin a.row.prod} (h : Block.place? a.row place = some c.val) :
    (a.fill p row q).at? a place = some (a.convert p (row c)) := by
  rcases a with v | s | _
  · obtain ⟨rfl, inside⟩ := place?_three h
    rw [fill, Particle.at?_vector, if_pos rfl, Vector3.at?, dif_pos inside, Vector3.get_ofFn]
    rfl
  · obtain ⟨rfl, first⟩ := place?_nil h
    cases show c = ⟨0, Nat.one_pos⟩ from Fin.ext first
    rw [fill, Particle.at?_scalar, if_pos rfl]
    rfl
  · obtain ⟨rfl, first⟩ := place?_nil h
    cases show c = ⟨0, Nat.one_pos⟩ from Fin.ext first
    rfl

theorem at?_fill_of_ne (p : Precision) (row : Fin a.row.prod → Entry α) (q : Particle α) (h : b ≠ a)
    (place : List Nat) : (a.fill p row q).at? b place = q.at? b place := by
  rcases a with v | s | _
  · rw [fill, Particle.at?_vector, if_neg h]
  · rw [fill, Particle.at?_scalar, if_neg h]
  · rw [fill, Particle.at?_owned, if_neg h]

end Attribute

namespace Ensemble

variable {n : Nat} {p : Precision} {e e' : Ensemble n α p} {a : Attribute} {b : Block (Entry α)}

theorem assign_of_spread {entry : Fin n → Fin a.row.prod → Entry α}
    (h : b.spread? n a.row = some entry) :
    e.assign a b = .ok (e.mapParticles fun k => a.fill p (entry k)) := by
  rcases a with v | s | _
  · rw [assign, show b.spread? n [3] = some entry from h]
    rfl
  · rw [assign, show b.spread? n [] = some entry from h]
    rfl
  · rw [assign, show b.spread? n [] = some entry from h]
    rfl

theorem assign_of_mismatch (h : b.spread? n a.row = none) :
    e.assign a b = .error (.shapeMismatch a.name (a.shape n) b.shape) := by
  rcases a with v | s | _
  · rw [assign, show b.spread? n [3] = none from h]
    rfl
  · rw [assign, show b.spread? n [] = none from h]
    rfl
  · rw [assign, show b.spread? n [] = none from h]
    rfl

/-- What becomes of setting an attribute from data of a shape that is read by index. It succeeds just for
one entry, one row, or one row for each particle. Then each entry of the attribute is the converted
entry of the data at the part of the index that the data has, and no other attribute has changed. -/
structure SetFrom (e : Ensemble n α p) (a : Attribute) (shape : List Nat)
    (read : List Nat → Option (Entry α)) (outcome : Ensemble n α p × Except (Fault α) Unit) : Prop where
  succeeds_iff : outcome.2 = .ok () ↔ shape = [] ∨ shape = a.row ∨ shape = a.shape n
  entry : outcome.2 = .ok () → ∀ k : Fin n, ∀ place ∈ a.places,
    ∃ x, read (Block.cut shape (k :: place)) = some x ∧
      outcome.1.at? a (k :: place) = some (a.convert p x)
  others : outcome.2 = .ok () → ∀ c ≠ a, ∀ index, outcome.1.at? c index = e.at? c index

/-- Setting an attribute from a block. -/
theorem assign_setFrom (e : Ensemble n α p) (a : Attribute) (b : Block (Entry α)) :
    e.SetFrom a b.shape b.at? (e.settle (e.assign a b)) := by
  rcases found : b.spread? n a.row with _ | entry
  · rw [assign_of_mismatch found]
    refine ⟨⟨nofun, fun fits => ?_⟩, nofun, nofun⟩
    obtain ⟨entry, spread⟩ := Block.exists_spread?_iff.mpr fits
    cases found.symm.trans spread
  · rw [assign_of_spread found]
    refine ⟨⟨fun _ => Block.exists_spread?_iff.mp ⟨entry, found⟩, fun _ => rfl⟩,
      fun _ k place hp => ?_, fun _ c other index => ?_⟩
    · obtain ⟨c, there⟩ := Attribute.exists_place?_of_mem_places hp
      refine ⟨entry k c, Block.at?_cut_of_spread? found k there, ?_⟩
      rw [settle, at?_particle, mapParticles_particle, Attribute.at?_fill_self _ _ _ there]
    · refine at?_congr (fun k place => ?_) index
      rw [settle, mapParticles_particle, Attribute.at?_fill_of_ne _ _ _ other]

theorem SetFrom.congr {shape : List Nat} {read read' : List Nat → Option (Entry α)}
    {outcome : Ensemble n α p × Except (Fault α) Unit} (h : e.SetFrom a shape read outcome)
    (same : ∀ index, read index = read' index) : e.SetFrom a shape read' outcome := by
  rwa [← show read = read' from funext same]

/-! ### Data of a change -/

theorem set_of_block {e : Ensemble n α p} {name : Setting α} {a : Attribute}
    {data : Nested (Entry α)} {b : Block (Entry α)} (named : attributeOf name = .ok a)
    (made : data.toBlock? = some b) : e.set name data = e.assign a b := by
  rw [set, named, made]
  rfl

theorem set_of_ragged {e : Ensemble n α p} {name : Setting α} {a : Attribute}
    {data : Nested (Entry α)} (named : attributeOf name = .ok a) (ragged : data.toBlock? = none) :
    e.set name data = .error .raggedData := by
  rw [set, named, ragged]
  rfl

theorem setBlock_label (e : Ensemble n α p) (a : Attribute) (b : Block (Entry α)) :
    e.setBlock a.label b = e.assign a b := by
  rw [setBlock, attributeOf_eq_ok_iff.mpr rfl]
  rfl

/-- Setting an attribute from a block under its name. -/
theorem setBlock_setFrom (e : Ensemble n α p) (a : Attribute) (b : Block (Entry α)) :
    e.SetFrom a b.shape b.at? (e.edit (.setBlock a.label b)) := by
  rw [edit, setBlock_label]
  exact e.assign_setFrom a b

/-- From a block an attribute can be set only if it is known. -/
theorem exists_label_of_setBlock (e : Ensemble n α p) (name : Setting α) (b : Block (Entry α))
    (h : (e.edit (.setBlock name b)).2 = .ok ()) : ∃ a : Attribute, name = a.label := by
  rcases named : attributeOf name with fault | a
  · rw [edit, setBlock, named] at h
    cases h
  · exact ⟨a, attributeOf_eq_ok_iff.mp named⟩

/-- Setting an attribute from nested data that is an array. -/
theorem set_setFrom (e : Ensemble n α p) (a : Attribute) {data : Nested (Entry α)} {shape : List Nat}
    (h : data.IsArray shape) : e.SetFrom a shape data.at? (e.edit (.set a.label data)) := by
  obtain ⟨b, made, rfl, same⟩ := h.toBlock?
  rw [edit, set_of_block (attributeOf_eq_ok_iff.mpr rfl) made]
  exact (e.assign_setFrom a b).congr same

/-- An attribute can be set only if it is known, and only from an array. -/
theorem isArray_of_set (e : Ensemble n α p) (name : Setting α) (data : Nested (Entry α))
    (h : (e.edit (.set name data)).2 = .ok ()) :
    ∃ (a : Attribute) (shape : List Nat), name = a.label ∧ data.IsArray shape := by
  rcases named : attributeOf name with fault | a
  · rw [edit, set, named] at h
    cases h
  · rcases made : data.toBlock? with _ | b
    · rw [edit, set_of_ragged named made] at h
      cases h
    · exact ⟨a, b.shape, attributeOf_eq_ok_iff.mp named, Nested.isArray_of_toBlock? made⟩

/-- Setting an attribute from another one. -/
theorem copy_setFrom (e : Ensemble n α p) (a source : Attribute) :
    e.SetFrom a (source.shape n) (e.at? source) (e.edit (.copy a.label source.label)) := by
  have step : e.copy a.label source.label = e.assign a (e.column source) := by
    rw [copy, attributeOf_eq_ok_iff.mpr rfl]
    exact e.setBlock_label a _
  rw [edit, step, ← e.column_shape source]
  exact (e.assign_setFrom a _).congr (e.column_at? source)

omit [Arithmetic α] in
/-- A change that is made at once or not at all leaves everything as it was when it fails. -/
theorem settle_of_error {result : Except (Fault α) (Ensemble n α p)} {fault : Fault α}
    (failed : (e.settle result).2 = .error fault) : (e.settle result).1 = e := by
  cases result with
  | ok => cases failed
  | error => rfl

end Ensemble

/-! ## Kinds of entries -/

/-- The numbers of a precision: zero and one, which every precision has, and what it rounds to. -/
inductive Precision.Has (p : Precision) : α → Prop
  | zero : p.Has 0.0
  | one : p.Has 1.0
  | rounded (x : α) : p.Has (p.round x)

inductive EntryKind.Holds : EntryKind → Entry α → Prop
  | number {p : Precision} {x : α} (h : p.Has x) : Holds (.real p) (.number x)
  | flag (b : Bool) : Holds .flag (.flag b)

/-- The numbers of a particle are numbers of a precision. -/
structure Particle.Within (p : Precision) (q : Particle α) : Prop where
  vector : ∀ (v : VectorAttribute) c, p.Has ((v.get q).get c)
  scalar : ∀ s : ScalarAttribute, p.Has (s.get q)

namespace Particle.Within

variable {p : Precision} {q : Particle α}

theorem fresh (p : Precision) : (Particle.fresh : Particle α).Within p where
  vector v c := by
    have component : (v.get (Particle.fresh : Particle α)).get c = 0.0 := by
      cases v <;> exact match c with | 0 | 1 | 2 => rfl
    rw [component]
    exact .zero
  scalar s := by
    cases s
    case masses | densities => exact .one
    all_goals exact .zero

theorem putVector (h : q.Within p) (a : VectorAttribute) {w : Vector3 α} (hw : ∀ c, p.Has (w.get c)) :
    (a.put q w).Within p where
  vector b c := by
    have read : b.get (a.put q w) = if b = a then w else b.get q := by cases a <;> cases b <;> rfl
    rw [read]
    split
    · exact hw c
    · exact h.vector b c
  scalar s := by
    have read : s.get (a.put q w) = s.get q := by cases a <;> cases s <;> rfl
    rw [read]
    exact h.scalar s

theorem putScalar (h : q.Within p) (a : ScalarAttribute) {x : α} (hx : p.Has x) :
    (a.put q x).Within p where
  vector v c := by
    have read : v.get (a.put q x) = v.get q := by cases a <;> cases v <;> rfl
    rw [read]
    exact h.vector v c
  scalar b := by
    have read : b.get (a.put q x) = if b = a then x else b.get q := by cases a <;> cases b <;> rfl
    rw [read]
    split
    · exact hx
    · exact h.scalar b

theorem own (h : q.Within p) (b : Bool) : ({ q with owned := b } : Particle α).Within p where
  vector v c := by
    have := h.vector v c
    cases v <;> exact this
  scalar s := by
    have := h.scalar s
    cases s <;> exact this

theorem fill (h : q.Within p) (a : Attribute) (row : Fin a.row.prod → Entry α) :
    (a.fill p row q).Within p := by
  rcases a with v | s | _
  · exact h.putVector v fun c => Vector3.get_ofFn (_) c ▸ .rounded _
  · exact h.putScalar s (.rounded _)
  · exact h.own _

end Particle.Within

namespace Ensemble

variable {n : Nat} {p : Precision} {e e' : Ensemble n α p}

/-! ## What a change keeps -/

/-- An ensemble of a precision has numbers of this precision. -/
structure Within (e : Ensemble n α p) : Prop where
  particle : ∀ k : Fin n, e.particles[k].Within p

theorem within_fresh (n : Nat) (p : Precision) : (fresh n p : Ensemble n α p).Within where
  particle k := by
    have each : (fresh n p : Ensemble n α p).particles[k] = Particle.fresh := Vector.getElem_replicate _
    rw [each]
    exact .fresh p

/-- A single number is rounded when it is written. -/
theorem has_of_oneReal {data : Nested (Entry α)} {x : α} (h : oneReal p data = .ok x) : p.Has x := by
  cases data with
  | entry y =>
      cases h
      exact .rounded _
  | list => cases h

namespace Within

theorem mapParticles (h : e.Within) {f : Fin n → Particle α → Particle α}
    (hf : ∀ k (q : Particle α), q.Within p → (f k q).Within p) : (e.mapParticles f).Within where
  particle k := by
    rw [mapParticles_particle]
    exact hf k _ (h.particle k)

theorem modifyParticle (h : e.Within) (k : Fin n) {f : Particle α → Particle α}
    (hf : ∀ q : Particle α, q.Within p → (f q).Within p) : (e.modifyParticle k f).Within where
  particle j := by
    rw [modifyParticle_particle]
    split
    · exact hf _ (h.particle j)
    · exact h.particle j

/-- A change that fails keeps everything. -/
theorem settle (h : e.Within) {result : Except (Fault α) (Ensemble n α p)}
    (ok : ∀ e', result = .ok e' → e'.Within) : (e.settle result).1.Within := by
  cases result with
  | ok e' => exact ok e' rfl
  | error => exact h

theorem assign (h : e.Within) {a : Attribute} {b : Block (Entry α)} (ok : e.assign a b = .ok e') :
    e'.Within := by
  rcases found : b.spread? n a.row with _ | entry
  · cases (assign_of_mismatch found).symm.trans ok
  · cases (assign_of_spread found).symm.trans ok
    exact h.mapParticles fun k q hq => hq.fill a (entry k)

theorem set (h : e.Within) {name : Setting α} {data : Nested (Entry α)}
    (ok : e.set name data = .ok e') : e'.Within := by
  obtain ⟨a, -, ok⟩ := bind_eq_ok_iff.mp ok
  split at ok
  · exact h.assign ok
  · cases ok

theorem setBlock (h : e.Within) {name : Setting α} {b : Block (Entry α)}
    (ok : e.setBlock name b = .ok e') : e'.Within := by
  obtain ⟨a, -, ok⟩ := bind_eq_ok_iff.mp ok
  exact h.assign ok

theorem copy (h : e.Within) {name source : Setting α} (ok : e.copy name source = .ok e') :
    e'.Within := by
  obtain ⟨s, -, ok⟩ := bind_eq_ok_iff.mp ok
  exact h.setBlock ok

theorem writeAt (h : e.Within) {a : Attribute} {index : List Int} {data : Nested (Entry α)}
    (ok : e.writeAt a index data = .ok e') : e'.Within := by
  have round (x : α) : p.Has (p.round x) := .rounded x
  unfold Ensemble.writeAt at ok
  split at ok
  · next v =>
    obtain ⟨f, -, ok⟩ := bind_eq_ok_iff.mp ok
    cases pure_eq_ok_iff.mp ok
    exact h.mapParticles fun k q hq => hq.putVector v fun c => Vector3.get_ofFn _ c ▸ round _
  · next v i =>
    obtain ⟨k, -, ok⟩ := bind_eq_ok_iff.mp ok
    obtain ⟨f, -, ok⟩ := bind_eq_ok_iff.mp ok
    cases pure_eq_ok_iff.mp ok
    exact h.modifyParticle k fun q hq => hq.putVector v fun c => Vector3.get_ofFn _ c ▸ round _
  · next v i c =>
    obtain ⟨k, -, ok⟩ := bind_eq_ok_iff.mp ok
    obtain ⟨c, -, ok⟩ := bind_eq_ok_iff.mp ok
    obtain ⟨x, written, ok⟩ := bind_eq_ok_iff.mp ok
    cases pure_eq_ok_iff.mp ok
    refine h.modifyParticle k fun q hq => hq.putVector v fun d => ?_
    rw [Vector3.get_set]
    split
    · exact has_of_oneReal written
    · exact hq.vector v d
  · next s =>
    obtain ⟨f, -, ok⟩ := bind_eq_ok_iff.mp ok
    cases pure_eq_ok_iff.mp ok
    exact h.mapParticles fun k q hq => hq.putScalar s (round _)
  · next s i =>
    obtain ⟨k, -, ok⟩ := bind_eq_ok_iff.mp ok
    obtain ⟨x, written, ok⟩ := bind_eq_ok_iff.mp ok
    cases pure_eq_ok_iff.mp ok
    exact h.modifyParticle k fun q hq => hq.putScalar s (has_of_oneReal written)
  · obtain ⟨f, -, ok⟩ := bind_eq_ok_iff.mp ok
    cases pure_eq_ok_iff.mp ok
    exact h.mapParticles fun k q hq => hq.own _
  · next i =>
    obtain ⟨k, -, ok⟩ := bind_eq_ok_iff.mp ok
    cases pure_eq_ok_iff.mp ok
    exact h.modifyParticle k fun q hq => hq.own _
  · cases ok

theorem write (h : e.Within) {name : Setting α} {index : List Int} {data : Nested (Entry α)}
    (ok : e.write name index data = .ok e') : e'.Within := by
  obtain ⟨a, -, ok⟩ := bind_eq_ok_iff.mp ok
  obtain ⟨-, -, ok⟩ := bind_eq_ok_iff.mp ok
  exact h.writeAt ok

theorem clear (h : e.Within) (a : Attribute) : (e.clear a).Within := by
  rcases a with v | s | _
  · refine h.mapParticles fun k q hq => hq.putVector v fun c => ?_
    rw [show (Vector3.zero : Vector3 α).get c = 0.0 from match c with | 0 | 1 | 2 => rfl]
    exact .zero
  · exact h.mapParticles fun k q hq => hq.putScalar s .zero
  · exact h.mapParticles fun k q hq => hq.own false

theorem clearNamed (h : e.Within) (names : List (Setting α)) : (e.clearNamed names).1.Within := by
  induction names generalizing e with
  | nil => exact h
  | cons name names ih =>
      rw [Ensemble.clearNamed]
      split
      · next a _ => exact ih (h.clear a)
      · exact h

theorem zero (h : e.Within) (names : Setting α) : (e.zero names).1.Within := by
  rw [Ensemble.zero]
  split
  · exact h.clearNamed _
  · exact h

/-- A change keeps the precision of the numbers, also when it is refused half way. -/
theorem edit (h : e.Within) (change : Edit α) : (e.edit change).1.Within := by
  cases change with
  | set name data => exact h.settle fun _ ok => h.set ok
  | setBlock name b => exact h.settle fun _ ok => h.setBlock ok
  | copy name source => exact h.settle fun _ ok => h.copy ok
  | write name index data => exact h.settle fun _ ok => h.write ok
  | zero names => exact h.zero names

end Within

/-- An ensemble after changes, of which some may have been refused. -/
def after (e : Ensemble n α p) (edits : List (Edit α)) : Ensemble n α p :=
  edits.foldl (fun e change => (e.edit change).1) e

theorem Within.after (h : e.Within) (edits : List (Edit α)) : (e.after edits).Within := by
  induction edits generalizing e with
  | nil => exact h
  | cons change edits ih => exact ih (h.edit change)

/-! ## The layout -/

/-- Each attribute is an array of its shape whose entries are of the kind that they had at first. -/
def HasLayout (e : Ensemble n α p) : Prop :=
  ∀ a : Attribute, (e.column a).shape = a.shape n ∧
    e.kindOf a = (fresh n p : Ensemble n α p).kindOf a ∧
    ∀ x ∈ (e.column a).entries, (e.kindOf a).Holds x

theorem Within.hasLayout (h : e.Within) : e.HasLayout := by
  intro a
  refine ⟨e.column_shape a, rfl, fun x hx => ?_⟩
  rcases a with v | s | _
  · obtain ⟨k, rfl⟩ := Array.mem_ofFn.mp hx
    exact .number ((h.particle ⟨k.val / 3, by omega⟩).vector v _)
  · obtain ⟨k, rfl⟩ := Array.mem_ofFn.mp hx
    exact .number ((h.particle k).scalar s)
  · obtain ⟨k, rfl⟩ := Array.mem_ofFn.mp hx
    exact .flag _

/-- Fresh particles keep their layout through all changes, successful or not. At any time an attribute
can be set from an array that is one entry, one row, or one row for each particle, whether the array is
given as a block, as nested data or as another attribute; each of its entries then has the value at its
place in the array, and no other attribute changes. Setting fails for arrays of all other shapes, for
data that is no array and for names of no attribute, and changes nothing then. -/
theorem after_hasLayout_and_sets (n : Nat) (p : Precision) (edits : List (Edit α)) :
    let e := (fresh n p).after edits
    e.HasLayout ∧
    (∀ (a : Attribute) (b : Block (Entry α)),
      e.SetFrom a b.shape b.at? (e.edit (.setBlock a.label b))) ∧
    (∀ (a : Attribute) (data : Nested (Entry α)) (shape : List Nat), data.IsArray shape →
      e.SetFrom a shape data.at? (e.edit (.set a.label data))) ∧
    (∀ a source : Attribute,
      e.SetFrom a (source.shape n) (e.at? source) (e.edit (.copy a.label source.label))) ∧
    (∀ (name : Setting α) (b : Block (Entry α)), (e.edit (.setBlock name b)).2 = .ok () →
      ∃ a : Attribute, name = a.label) ∧
    (∀ (name : Setting α) (data : Nested (Entry α)), (e.edit (.set name data)).2 = .ok () →
      ∃ (a : Attribute) (shape : List Nat), name = a.label ∧ data.IsArray shape) ∧
    (∀ (name : Setting α) (b : Block (Entry α)) (fault : Fault α),
      (e.edit (.setBlock name b)).2 = .error fault → (e.edit (.setBlock name b)).1 = e) ∧
    (∀ (name : Setting α) (data : Nested (Entry α)) (fault : Fault α),
      (e.edit (.set name data)).2 = .error fault → (e.edit (.set name data)).1 = e) ∧
    ∀ (name source : Setting α) (fault : Fault α),
      (e.edit (.copy name source)).2 = .error fault → (e.edit (.copy name source)).1 = e := by
  intro e
  refine ⟨((within_fresh n p).after edits).hasLayout, e.setBlock_setFrom,
    fun a data shape array => e.set_setFrom a array, e.copy_setFrom, e.exists_label_of_setBlock,
    e.isArray_of_set, fun name b fault failed => ?_, fun name data fault failed => ?_,
    fun name source fault failed => ?_⟩
  · exact settle_of_error failed
  · exact settle_of_error failed
  · exact settle_of_error failed

end Ensemble

end ParticleMomentum
