import ParticleMomentum.Arithmetic

/-!
# Settings

A setting is a value that a user wrote down: nothing, a flag, a whole or real number, a text, a
sequence or a record of settings. `Settings` are named settings, in the order in which the names first
came up.

Numbers are compared exactly across the two kinds, and a flag counts as zero or one.
-/

namespace ParticleMomentum

/-- A value as a user wrote it down. -/
inductive Setting (α : Type) where
  | null
  | flag (b : Bool)
  | whole (n : Int)
  | real (x : α)
  | text (s : String)
  | sequence (items : List (Setting α))
  | record (fields : List (String × Setting α))

instance {α : Type} : Inhabited (Setting α) := ⟨.null⟩

/-- Named settings. Each name occurs once. -/
abbrev Settings (α : Type) : Type := List (String × Setting α)

namespace Settings

variable {α : Type}

def find? (s : Settings α) (key : String) : Option (Setting α) := s.lookup key

/-- The setting of a name, or another value where there is none. -/
def findD (s : Settings α) (key : String) (default : Setting α) : Setting α :=
  (s.find? key).getD default

def has (s : Settings α) (key : String) : Bool := (s.find? key).isSome

/-- Sets a name: in its place if it is set already, else at the end. -/
def put (s : Settings α) (key : String) (value : Setting α) : Settings α :=
  match s with
  | [] => [(key, value)]
  | (k, v) :: rest => if k == key then (k, value) :: rest else (k, v) :: put rest key value

def erase (s : Settings α) (key : String) : Settings α := s.filter fun (k, _) => k != key

/-- Sets all names of `other`, in order. -/
def merge (s other : Settings α) : Settings α :=
  other.foldl (fun acc (k, v) => acc.put k v) s

end Settings

namespace Setting

variable {α : Type} [Arithmetic α]

/-- A number as it is written: whole or real. -/
inductive Number (α : Type) where
  | whole (n : Int)
  | real (x : α)

/-- The number that a setting is; a flag is zero or one. -/
def number? : Setting α → Option (Number α)
  | flag b => some (.whole (if b then 1 else 0))
  | whole n => some (.whole n)
  | real x => some (.real x)
  | _ => none

/-- The exact comparison of two numbers, where they are comparable. -/
def Number.compare? : Number α → Number α → Option Ordering
  | whole m, whole n => some (compare m n)
  | whole m, real y => (Arithmetic.compareInt? y m).map Ordering.swap
  | real x, whole n => Arithmetic.compareInt? x n
  | real x, real y => Arithmetic.compare? x y

def Number.atMost (x y : Number α) : Bool :=
  match x.compare? y with
  | some .lt | some .eq => true
  | _ => false

def Number.same (x y : Number α) : Bool := x.compare? y == some .eq

/-- What a setting means where a yes or a no is wanted: no for nothing, zero and all that is empty. -/
def truth : Setting α → Bool
  | null => false
  | flag b => b
  | whole n => n != 0
  | real x => !Arithmetic.isZero x
  | text s => !s.isEmpty
  | sequence items => !items.isEmpty
  | record fields => !fields.isEmpty

mutual

/-- Two settings have the same value. Numbers are compared by value, records without regard to order. -/
def same : Setting α → Setting α → Bool
  | null, null => true
  | flag b, other => sameNumber (.whole (if b then 1 else 0)) other
  | whole n, other => sameNumber (.whole n) other
  | real x, other => sameNumber (.real x) other
  | text s, text t => s == t
  | sequence xs, sequence ys => sameItems xs ys
  | record xs, record ys => xs.length == ys.length && sameFields xs ys
  | _, _ => false

/-- A setting is a number of the given value. -/
def sameNumber (x : Number α) (other : Setting α) : Bool :=
  match other.number? with
  | some y => x.same y
  | none => false

/-- Two sequences have the same items. -/
def sameItems : List (Setting α) → List (Setting α) → Bool
  | [], [] => true
  | x :: xs, y :: ys => same x y && sameItems xs ys
  | _, _ => false

/-- Each field is found in another record with the same value. -/
def sameFields : List (String × Setting α) → List (String × Setting α) → Bool
  | [], _ => true
  | (k, x) :: xs, ys =>
    (match ys.lookup k with
      | some y => same x y
      | none => false) && sameFields xs ys

end

/-- The setting can be an entry of a look-up table: it is neither a sequence nor a record. -/
def isKey : Setting α → Bool
  | sequence _ | record _ => false
  | _ => true

end Setting

end ParticleMomentum
