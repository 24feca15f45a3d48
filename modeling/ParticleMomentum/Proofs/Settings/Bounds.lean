import ParticleMomentum.Bounds
import ParticleMomentum.Proofs.Trail

/-!
# Bounded settings

Every name has one bound at most. Settings that pass the check hold a number within its bound wherever a
bounded name is set.
-/

namespace ParticleMomentum

variable {α : Type} [Arithmetic α]

namespace Bound

/-- The settings that hold unless others are given are the usual ones. -/
theorem find_defaults (b : Bound α) (hb : b ∈ all) :
    Settings.defaults.find? b.key = some b.usual := by
  simp only [all, List.mem_cons, List.not_mem_nil, or_false] at hb
  rcases hb with rfl | rfl | rfl | rfl | rfl | rfl | rfl | rfl | rfl | rfl | rfl | rfl <;> rfl

/-- A bound is found by its key. -/
theorem find?_key (b : Bound α) (hb : b ∈ all) :
    all.find? (·.key == b.key) = some b := by
  simp only [all, List.mem_cons, List.not_mem_nil, or_false] at hb
  rcases hb with rfl | rfl | rfl | rfl | rfl | rfl | rfl | rfl | rfl | rfl | rfl | rfl <;> rfl

omit [Arithmetic α] in
theorem number?_of_numeric? {s : Setting α} {x : Setting.Number α} (h : numeric? s = some x) :
    s.number? = some x := by
  cases s with
  | flag b => cases h
  | null | whole | real | text | sequence | record => exact h

end Bound

/-- A bounded setting that is set is a number within its bound. -/
theorem Settings.holds_of_validate {settings : Settings α} (valid : settings.validate = .ok ())
    {b : Bound α} (hb : b ∈ Bound.all) {value : Setting α} (found : settings.find? b.key = some value) :
    ∃ x, Bound.numeric? value = some x ∧ b.holds x = true := by
  have check : b.check settings = .ok () := forM_eq_ok_iff.mp valid b hb
  rw [Bound.check, found] at check
  dsimp only at check
  split at check
  · cases check
  · next number numeric =>
    split at check
    · next holds => exact ⟨number, numeric, holds⟩
    · cases check

end ParticleMomentum
