import ParticleMomentum.Fault
import ParticleMomentum.MachineInteger
import ParticleMomentum.Particles.Attribute
import ParticleMomentum.Particles.Block
import ParticleMomentum.Text.Blank

/-!
# Ensembles of particles

An ensemble holds a fixed number of particles. Its attributes can be read and written as blocks: a whole
attribute at once, single entries by index, or back to zero. Writing rounds to the precision of the
ensemble. The precision belongs to the type: `Ensemble n α` holds doubles, which is what the momentum
equation is evaluated on, and `Ensemble n α .single` holds numbers of single precision.
-/

namespace ParticleMomentum

inductive Precision where
  | double
  | single
  deriving DecidableEq, Repr

def Precision.round {α : Type} [Arithmetic α] : Precision → α → α
  | double => id
  | single => Arithmetic.toSingle

/-- An entry of written data: a number, a flag, or nothing. -/
inductive Entry (α : Type) where
  | number (x : α)
  | flag (b : Bool)
  | missing

namespace Entry

variable {α : Type} [Arithmetic α]

/-- An entry as a number. Nothing becomes the undefined number. -/
def toReal : Entry α → α
  | number x => x
  | flag b => if b then 1.0 else 0.0
  | missing => (Arithmetic.ofSpecial? .undefined).getD 0.0

/-- An entry as a flag: set unless it is zero or nothing. -/
def toFlag : Entry α → Bool
  | number x => !Arithmetic.isZero x
  | flag b => b
  | missing => false

end Entry

/-- A fixed number of particles, kept in a precision. -/
structure Ensemble (n : Nat) (α : Type) (precision : Precision := .double) where
  particles : Vector (Particle α) n

/-- The shape of an attribute of one particle. -/
def Attribute.row : Attribute → List Nat
  | vector _ => [3]
  | scalar _ | owned => []

def Attribute.shape (n : Nat) (a : Attribute) : List Nat := n :: a.row

inductive EntryKind where
  | real (p : Precision)
  | flag
  deriving DecidableEq, Repr

/-- The place of an index, which counts from the end if it is negative. -/
def resolveIndex? (n : Nat) (i : Int) : Option (Fin n) :=
  let k := if i < 0 then i + n else i
  if h : 0 ≤ k ∧ k < n then some ⟨k.toNat, by omega⟩ else none

namespace Ensemble

variable {α : Type} [Arithmetic α] {n : Nat} {p : Precision}

def fresh (n : Nat) (p : Precision) : Ensemble n α p :=
  ⟨Vector.replicate n Particle.fresh⟩

/-- The ensemble with as many fresh particles as a setting says. -/
def ofCount (count : Setting α) (p : Precision) :
    Except (Fault α) ((n : Nat) × Ensemble n α p) :=
  match count with
  | .whole (.ofNat n) => .ok ⟨n, fresh n p⟩
  | .flag _ => .error .countIsAFlag
  | other => .error (.countNotNatural other)

def kindOf (_ : Ensemble n α p) : Attribute → EntryKind
  | .owned => .flag
  | _ => .real p

/-- The attribute of each particle, as a block. -/
def column (e : Ensemble n α p) : Attribute → Block (Entry α)
  | .vector a =>
    ⟨[n, 3], Array.ofFn fun k : Fin (n * 3) =>
        have inside : k.val / 3 < n := by omega
        .number ((a.get e.particles[k.val / 3]).get ⟨k.val % 3, by omega⟩),
      by simp⟩
  | .scalar a => ⟨[n], Array.ofFn fun k : Fin n => .number (a.get e.particles[k]), by simp⟩
  | .owned => ⟨[n], Array.ofFn fun k : Fin n => .flag e.particles[k].owned, by simp⟩

def mapParticles (e : Ensemble n α p) (f : Fin n → Particle α → Particle α) : Ensemble n α p :=
  ⟨Vector.ofFn fun k => f k e.particles[k]⟩

def modifyParticle (e : Ensemble n α p) (k : Fin n) (f : Particle α → Particle α) :
    Ensemble n α p :=
  ⟨e.particles.set k (f e.particles[k]) k.isLt⟩

/-- Sets an attribute of all particles from a block: one entry for all, one row for all, or one row for
each. -/
def assign (e : Ensemble n α p) (a : Attribute) (b : Block (Entry α)) :
    Except (Fault α) (Ensemble n α p) :=
  match a with
  | .vector v =>
    match b.spread? n [3] with
    | some entry => .ok <| e.mapParticles fun k q =>
        v.put q (Vector3.ofFn fun c => p.round (entry k c).toReal)
    | none => mismatch
  | .scalar s =>
    match b.spread? n [] with
    | some entry => .ok <| e.mapParticles fun k q =>
        s.put q (p.round (entry k ⟨0, Nat.one_pos⟩).toReal)
    | none => mismatch
  | .owned =>
    match b.spread? n [] with
    | some entry => .ok <| e.mapParticles fun k q =>
        { q with owned := (entry k ⟨0, Nat.one_pos⟩).toFlag }
    | none => mismatch
where
  /-- The fault of a block that does not fit. -/
  mismatch : Except (Fault α) (Ensemble n α p) :=
    .error (.shapeMismatch a.name (a.shape n) b.shape)

/-- The attribute that a setting names. -/
def attributeOf (name : Setting α) : Except (Fault α) Attribute :=
  match name with
  | .text s =>
    match Attribute.ofName? s with
    | some a => .ok a
    | none => .error (.unknownAttribute name)
  | .sequence _ | .record _ => .error (.unusableKey name)
  | _ => .error (.unknownAttribute name)

/-- Sets a named attribute of all particles from a block. -/
def setBlock (e : Ensemble n α p) (name : Setting α) (b : Block (Entry α)) :
    Except (Fault α) (Ensemble n α p) := do
  e.assign (← attributeOf name) b

/-- Sets a named attribute of all particles from nested data. -/
def set (e : Ensemble n α p) (name : Setting α) (data : Nested (Entry α)) :
    Except (Fault α) (Ensemble n α p) := do
  let a ← attributeOf name
  match data.toBlock? with
  | some b => e.assign a b
  | none => .error .raggedData

def copy (e : Ensemble n α p) (name source : Setting α) : Except (Fault α) (Ensemble n α p) := do
  e.setBlock name (e.column (← attributeOf source))

def clear (e : Ensemble n α p) : Attribute → Ensemble n α p
  | .vector a => e.mapParticles fun _ q => a.put q Vector3.zero
  | .scalar a => e.mapParticles fun _ q => a.put q 0.0
  | .owned => e.mapParticles fun _ q => { q with owned := false }

/-- Sets named attributes to zero, one after the other, up to the first unknown name. -/
def clearNamed (e : Ensemble n α p) : List (Setting α) → Ensemble n α p × Except (Fault α) Unit
  | [] => (e, .ok ())
  | name :: names =>
    match attributeOf name with
    | .ok a => (e.clear a).clearNamed names
    | .error f => (e, .error f)

/-- The names that a setting lists: the words of a text, or the items of a sequence. -/
def listedNames (names : Setting α) : Except (Fault α) (List (Setting α)) :=
  match names with
  | .text s => .ok ((Text.words s.toList).map fun w => .text (String.ofList w))
  | .sequence items => .ok items
  | .record fields => .ok (fields.map fun (k, _) => .text k)
  | _ => .error .unlistedNames

def zero (e : Ensemble n α p) (names : Setting α) : Ensemble n α p × Except (Fault α) Unit :=
  match listedNames names with
  | .ok names => e.clearNamed names
  | .error f => (e, .error f)

/-- Data for several entries: a block stretched to their shape. -/
def stretched (data : Nested (Entry α)) (shape : List Nat) :
    Except (Fault α) (List Nat → Entry α) :=
  match data.toBlock? with
  | none => .error .raggedData
  | some b =>
    match b.stretch? shape .missing with
    | some f => .ok f
    | none => .error .notBroadcastable

/-- Data for one number. -/
def oneReal (p : Precision) : Nested (Entry α) → Except (Fault α) α
  | .entry x => .ok (p.round x.toReal)
  | .list _ => .error .raggedData

/-- Data for one flag; a list counts as set unless it is empty. -/
def oneFlag : Nested (Entry α) → Bool
  | .entry x => x.toFlag
  | .list items => !items.isEmpty

/-- Refuses indices that no machine integer can hold; those that an unsigned one holds are told apart. -/
def checkIndex : List Int → Except (Fault α) Unit
  | [] => .ok ()
  | i :: rest =>
    if MachineInteger.fitsSigned i then checkIndex rest
    else if MachineInteger.fitsUnsigned i then .error .overflow
    else .error .indexOutOfRange

/-- Resolves an index among `n` places. -/
def resolve (n : Nat) (i : Int) : Except (Fault α) (Fin n) :=
  match resolveIndex? n i with
  | some k => .ok k
  | none => .error .indexOutOfRange

/-- Writes data at an index of an attribute. An index that leaves dimensions open addresses all entries
along them. -/
def writeAt (e : Ensemble n α p) (a : Attribute) (index : List Int) (data : Nested (Entry α)) :
    Except (Fault α) (Ensemble n α p) :=
  let round (x : Entry α) : α := p.round x.toReal
  match a, index with
  | .vector v, [] => do
    let f ← stretched data [n, 3]
    return e.mapParticles fun k q => v.put q (Vector3.ofFn fun c => round (f [k, c]))
  | .vector v, [i] => do
    let k ← resolve n i
    let f ← stretched data [3]
    return e.modifyParticle k fun q => v.put q (Vector3.ofFn fun c => round (f [c]))
  | .vector v, [i, c] => do
    let k ← resolve n i
    let c ← resolve 3 c
    let x ← oneReal p data
    return e.modifyParticle k fun q => v.put q ((v.get q).set c x)
  | .scalar s, [] => do
    let f ← stretched data [n]
    return e.mapParticles fun k q => s.put q (round (f [k]))
  | .scalar s, [i] => do
    let k ← resolve n i
    let x ← oneReal p data
    return e.modifyParticle k fun q => s.put q x
  | .owned, [] => do
    let f ← stretched data [n]
    return e.mapParticles fun k q => { q with owned := (f [k]).toFlag }
  | .owned, [i] => do
    let k ← resolve n i
    return e.modifyParticle k fun q => { q with owned := oneFlag data }
  | _, _ => .error .indexOutOfRange

def write (e : Ensemble n α p) (name : Setting α) (index : List Int) (data : Nested (Entry α)) :
    Except (Fault α) (Ensemble n α p) := do
  let a ← attributeOf name
  checkIndex index
  e.writeAt a index data

def ownedCount (e : Ensemble n α p) : Nat := (e.particles.toList.filter (·.owned)).length

def positions (e : Ensemble n α p) : Vector (Vector3 α) n := e.particles.map (·.position)

inductive Edit (α : Type) where
  | set (name : Setting α) (data : Nested (Entry α))
  | setBlock (name : Setting α) (b : Block (Entry α))
  | copy (name source : Setting α)
  | write (name : Setting α) (index : List Int) (data : Nested (Entry α))
  | zero (names : Setting α)

/-- An ensemble after a change that either happens or leaves it alone. -/
def settle (e : Ensemble n α p) :
    Except (Fault α) (Ensemble n α p) → Ensemble n α p × Except (Fault α) Unit
  | .ok e' => (e', .ok ())
  | .error f => (e, .error f)

def edit (e : Ensemble n α p) : Edit α → Ensemble n α p × Except (Fault α) Unit
  | .set name data => e.settle (e.set name data)
  | .setBlock name b => e.settle (e.setBlock name b)
  | .copy name source => e.settle (e.copy name source)
  | .write name index data => e.settle (e.write name index data)
  | .zero names => e.zero names

end Ensemble

end ParticleMomentum
