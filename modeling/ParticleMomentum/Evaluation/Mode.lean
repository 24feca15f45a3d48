import ParticleMomentum.Fault

/-!
# Evaluation modes

The choices that an evaluation leaves to settings: the kind of background pressure, and the loop that
goes through the pairs.
-/

namespace ParticleMomentum

inductive Background where
  | off
  | standard
  | generalized
  deriving DecidableEq, Repr

namespace Background

def all : List Background := [off, standard, generalized]

def name : Background → String
  | off => "none"
  | standard => "standard"
  | generalized => "generalized"

def number : Background → Nat
  | off => 0
  | standard => 1
  | generalized => 2

def ofSetting {α : Type} (s : Setting α) : Except (Fault α) Background :=
  match s with
  | .text t =>
    match all.find? (·.name == t) with
    | some b => .ok b
    | none => .error (.unknownBackground s)
  | .sequence _ | .record _ => .error (.unusableKey s)
  | _ => .error (.unknownBackground s)

end Background

/-- The two pair loops: one loop with the terms of both schemes written out, and one that asks the
formulation for each term. -/
inductive Backend where
  | fused
  | stepwise
  deriving DecidableEq, Repr

namespace Backend

def all : List Backend := [fused, stepwise]

def name : Backend → String
  | fused => "numba"
  | stepwise => "python"

def ofSetting {α : Type} (s : Setting α) : Except (Fault α) Backend :=
  match s with
  | .text t =>
    match all.find? (·.name == t) with
    | some b => .ok b
    | none => .error (.unknownBackend s)
  | _ => .error (.unknownBackend s)

end Backend

end ParticleMomentum
