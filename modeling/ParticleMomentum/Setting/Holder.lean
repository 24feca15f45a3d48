import ParticleMomentum.Fault

/-!
# Holders of settings

Settings are handed over as a record. A sequence is taken as well, but holds no names: whoever looks one
up in it, or changes it by name, meets a fault. New settings are merged into a record from another
record, or from a sequence of names with values.
-/

namespace ParticleMomentum

variable {α : Type}

namespace Settings

/-- Sets what a name and a value say. A whole number as a name stands for its numeral; any other name
that is no text sets nothing that anyone looks up. -/
def putItem (s : Settings α) (key value : Setting α) : Except (Fault α) (Settings α) :=
  match key with
  | .text key => .ok (s.put key value)
  | .whole n => .ok (s.put (toString n) value)
  | other => if other.isKey then .ok s else .error (.unusableKey other)

/-- Merges one item of a sequence, which must be a name and a value. -/
def mergeItem (s : Settings α) : Setting α → Except (Fault α) (Settings α)
  | .sequence [key, value] => s.putItem key value
  | .sequence _ => .error .mergeItemSize
  | .text item =>
    match item.toList with
    | [key, value] => .ok (s.put (String.singleton key) (.text (String.singleton value)))
    | _ => .error .mergeItemSize
  | .record [(key, _), (value, _)] => .ok (s.put key (.text value))
  | .record _ => .error .mergeItemSize
  | _ => .error .notMergeable

/-- Merges the items of a sequence one by one, up to the first that does not fit. -/
def mergeItems (s : Settings α) : List (Setting α) → Settings α × Except (Fault α) Unit
  | [] => (s, .ok ())
  | item :: rest =>
    match s.mergeItem item with
    | .ok s' => mergeItems s' rest
    | .error e => (s, .error e)

/-- Merges what a setting stands for: a record, or a sequence of names with values. Items before the
first unfit one are merged. -/
def mergeSetting (s : Settings α) : Setting α → Settings α × Except (Fault α) Unit
  | .record fields => (s.merge fields, .ok ())
  | .sequence items => s.mergeItems items
  | .text t => if t.isEmpty then (s, .ok ()) else (s, .error .mergeItemSize)
  | _ => (s, .error .notMergeable)

end Settings

namespace Setting

/-- A holder of settings: a record or a sequence as it is, and an empty record for nothing. -/
def holder : Setting α → Except (Fault α) (Setting α)
  | null => .ok (record [])
  | record fields => .ok (record fields)
  | sequence items => .ok (sequence items)
  | _ => .error .notARecord

def lookup (s : Setting α) (key : String) : Except (Fault α) (Option (Setting α)) :=
  match s with
  | record fields => .ok (Settings.find? fields key)
  | _ => .error .notARecord

/-- The setting of a name in a holder, or another value where there is none. -/
def lookupD (s : Setting α) (key : String) (default : Setting α) : Except (Fault α) (Setting α) :=
  (s.lookup key).map (·.getD default)

def assign (s : Setting α) (key : String) (value : Setting α) : Except (Fault α) (Setting α) :=
  match s with
  | record fields => .ok (record (Settings.put fields key value))
  | _ => .error .notAssignable

/-- Drops a name, which must be set, from a holder. -/
def discard (s : Setting α) (key : String) : Except (Fault α) (Setting α) :=
  match s with
  | record fields =>
    if Settings.has fields key then .ok (record (Settings.erase fields key))
    else .error (.missingKey key)
  | _ => .error .notAssignable

/-- Merges new settings into a holder. -/
def update (s new : Setting α) : Setting α × Except (Fault α) Unit :=
  match s with
  | record fields =>
    let (merged, result) := Settings.mergeSetting fields new
    (record merged, result)
  | other => (other, .error .notARecord)

end Setting

end ParticleMomentum
