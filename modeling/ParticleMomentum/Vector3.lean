import ParticleMomentum.Arithmetic

/-!
# Vectors in space

Three components, and the few operations that pair terms need. The order of the additions is part of
each definition, since on doubles it decides the last bits.
-/

namespace ParticleMomentum

@[ext]
structure Vector3 (α : Type) where
  x : α
  y : α
  z : α
  deriving DecidableEq, Repr

namespace Vector3

variable {α β : Type}

def map (v : Vector3 α) (f : α → β) : Vector3 β := ⟨f v.x, f v.y, f v.z⟩

def zipWith (f : α → α → β) (v w : Vector3 α) : Vector3 β := ⟨f v.x w.x, f v.y w.y, f v.z w.z⟩

def replicate (a : α) : Vector3 α := ⟨a, a, a⟩

def toList (v : Vector3 α) : List α := [v.x, v.y, v.z]

def get (v : Vector3 α) : Fin 3 → α
  | 0 => v.x
  | 1 => v.y
  | 2 => v.z

def set (v : Vector3 α) (c : Fin 3) (a : α) : Vector3 α :=
  match c with
  | 0 => { v with x := a }
  | 1 => { v with y := a }
  | 2 => { v with z := a }

def ofFn (f : Fin 3 → α) : Vector3 α := ⟨f 0, f 1, f 2⟩

variable [Arithmetic α]

def zero : Vector3 α := ⟨0.0, 0.0, 0.0⟩

instance : Add (Vector3 α) := ⟨fun a b => ⟨a.x + b.x, a.y + b.y, a.z + b.z⟩⟩

instance : Sub (Vector3 α) := ⟨fun a b => ⟨a.x - b.x, a.y - b.y, a.z - b.z⟩⟩

def scale (s : α) (v : Vector3 α) : Vector3 α := ⟨s * v.x, s * v.y, s * v.z⟩

def divide (v : Vector3 α) (d : α) : Vector3 α := ⟨v.x / d, v.y / d, v.z / d⟩

def dot (a b : Vector3 α) : α := a.x * b.x + a.y * b.y + a.z * b.z

def squaredNorm (v : Vector3 α) : α := dot v v

def norm (v : Vector3 α) : α := Arithmetic.sqrt v.squaredNorm

def isFinite (v : Vector3 α) : Bool :=
  Arithmetic.isFinite v.x && Arithmetic.isFinite v.y && Arithmetic.isFinite v.z

end Vector3

end ParticleMomentum
