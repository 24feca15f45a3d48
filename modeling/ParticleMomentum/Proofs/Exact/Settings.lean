import ParticleMomentum.Proofs.Exact.Reals
import ParticleMomentum.Proofs.Settings
import ParticleMomentum.Proofs.Settings.Bounds

/-!
# Settings in exact arithmetic

Numbers of either kind have a value, by which they are compared. The settings that hold unless others
are given take the usual value of each bound, and pass all checks.
-/

namespace ParticleMomentum

open Arithmetic

namespace Setting.Number

noncomputable def value : Setting.Number ℝ → ℝ
  | whole n => n
  | real x => x

theorem toReal_eq (x : Setting.Number ℝ) : x.toReal = .ok x.value := by
  cases x with
  | whole n => simp [toReal, numberOfInt, value]
  | real x => rfl

theorem compare_cast (m n : Int) : compare m n = cmp (m : ℝ) n := by
  rcases lt_trichotomy m n with h | h | h
  · rw [compare_lt_iff_lt.mpr h, (cmp_eq_lt_iff _ _).mpr (Int.cast_lt.mpr h)]
  · rw [h, compare_eq_iff_eq.mpr rfl, cmp_self_eq_eq]
  · rw [compare_gt_iff_gt.mpr h, (cmp_eq_gt_iff _ _).mpr (Int.cast_lt.mpr h)]

theorem compare?_eq (x y : Setting.Number ℝ) : x.compare? y = some (cmp x.value y.value) := by
  cases x with
  | whole m =>
      cases y with
      | whole n => exact congrArg some (compare_cast m n)
      | real y => exact congrArg some (cmp_swap y m)
  | real x =>
      cases y with
      | whole n => rfl
      | real y =>
          simp only [compare?, Arithmetic.compare?, value]
          rcases lt_trichotomy x y with h | h | h
          · rw [if_pos h, (cmp_eq_lt_iff _ _).mpr h]
          · rw [h, if_neg (lt_irrefl y), if_pos le_rfl, cmp_self_eq_eq]
          · rw [if_neg h.not_gt, if_neg h.not_ge, if_pos h, (cmp_eq_gt_iff _ _).mpr h]

@[simp] theorem atMost_iff {x y : Setting.Number ℝ} : x.atMost y = true ↔ x.value ≤ y.value := by
  rw [atMost, compare?_eq, ← not_lt, ← cmp_eq_gt_iff]
  cases cmp x.value y.value <;> simp

end Setting.Number

/-! ## The bounds -/

namespace Bound

/-- The usual value of a bound lies within it. -/
theorem holds_usual (b : Bound ℝ) (hb : b ∈ all) :
    ∃ x, numeric? b.usual = some x ∧ b.holds x = true := by
  simp only [all, List.mem_cons, List.not_mem_nil, or_false] at hb
  rcases hb with rfl | rfl | rfl | rfl | rfl | rfl | rfl | rfl | rfl | rfl | rfl | rfl
  all_goals
    refine ⟨_, rfl, ?_⟩
    simp only [holds, Setting.number?, Bool.and_eq_true, Setting.Number.atMost_iff,
      Setting.Number.value]
    norm_num

theorem check_defaults (b : Bound ℝ) (hb : b ∈ all) : b.check Settings.defaults = .ok () := by
  obtain ⟨x, hx, holds⟩ := holds_usual b hb
  rw [check, find_defaults b hb]
  simp only [hx, holds, if_true]

end Bound

/-- What a bounded setting is read as is its value. -/
theorem Bound.toReal_of_numeric? {s : Setting ℝ} {x : Setting.Number ℝ} (h : numeric? s = some x) :
    s.toReal = .ok x.value := by
  cases s with
  | whole n =>
      cases h
      exact (Setting.Number.whole n).toReal_eq
  | real y =>
      cases h
      rfl
  | null | flag | text | sequence | record => cases h

theorem Bound.holds_iff {b : Bound ℝ} {x least greatest : Setting.Number ℝ}
    (hl : b.least.number? = some least) (hg : b.greatest.number? = some greatest) :
    b.holds x = true ↔ least.value ≤ x.value ∧ x.value ≤ greatest.value := by
  rw [holds, hl, hg, Bool.and_eq_true, Setting.Number.atMost_iff, Setting.Number.atMost_iff]

/-- A bounded setting that is set is a number within its bound. -/
theorem Settings.numeric_of_validate {settings : Settings ℝ}
    (valid : settings.validate = .ok ()) {key : String} {value : Setting ℝ}
    (found : settings.find? key = some value) {b : Bound ℝ}
    (bound : Bound.all.find? (·.key == key) = some b) {least greatest : Setting.Number ℝ}
    (hl : b.least.number? = some least) (hg : b.greatest.number? = some greatest) :
    ∃ x, Bound.numeric? value = some x ∧ least.value ≤ x.value ∧ x.value ≤ greatest.value := by
  have named : b.key = key := by simpa using List.find?_some bound
  obtain ⟨number, numeric, holds⟩ :=
    holds_of_validate valid (List.mem_of_find?_eq_some bound) (named.symm ▸ found)
  exact ⟨number, numeric, (Bound.holds_iff hl hg).mp holds⟩

/-- What a bounded setting is read as lies within its bound. -/
theorem Settings.exists_number_of_validate {settings : Settings ℝ}
    (valid : settings.validate = .ok ()) {key : String} {value : Setting ℝ}
    (found : settings.find? key = some value) {b : Bound ℝ}
    (bound : Bound.all.find? (·.key == key) = some b) {least greatest : Setting.Number ℝ}
    (hl : b.least.number? = some least) (hg : b.greatest.number? = some greatest) :
    ∃ x, value.toReal = .ok x ∧ least.value ≤ x ∧ x ≤ greatest.value := by
  obtain ⟨x, numeric, within⟩ := numeric_of_validate valid found bound hl hg
  exact ⟨x.value, Bound.toReal_of_numeric? numeric, within⟩

/-- A bounded setting between whole numbers is read as a whole number between them. -/
theorem Settings.exists_whole_of_validate {settings : Settings ℝ}
    (valid : settings.validate = .ok ()) {key : String} {value : Setting ℝ}
    (found : settings.find? key = some value) {b : Bound ℝ}
    (bound : Bound.all.find? (·.key == key) = some b) {least greatest : Nat}
    (hl : b.least.number? = some (.whole least)) (hg : b.greatest.number? = some (.whole greatest)) :
    ∃ n : Nat, value.toInt = .ok n ∧ least ≤ n ∧ n ≤ greatest := by
  obtain ⟨x, numeric, above, below⟩ := numeric_of_validate valid found bound hl hg
  obtain ⟨n, read, above, below⟩ : ∃ n : Int, value.toInt = .ok n ∧ least ≤ n ∧ n ≤ greatest := by
    cases value with
    | whole n =>
        cases numeric
        exact ⟨n, rfl, Int.cast_le.mp above, Int.cast_le.mp below⟩
    | real y =>
        cases numeric
        have nonneg : (0 : ℝ) ≤ y := (Int.cast_nonneg (Int.natCast_nonneg least)).trans above
        refine ⟨⌊y⌋, ?_, Int.le_floor.mpr above, Int.cast_le.mp ((Int.floor_le y).trans below)⟩
        rw [Setting.toInt, show truncate? y = some ⌊y⌋ from congrArg some (if_pos nonneg)]
    | null | flag | text | sequence | record => cases numeric
  lift n to ℕ using by omega
  exact ⟨n, read, by omega, by omega⟩

/-- A bounded setting that is set can be read. -/
theorem Settings.exists_requireReal {settings : Settings ℝ} (valid : settings.validate = .ok ())
    {key : String} (set : settings.has key = true) {b : Bound ℝ}
    (bound : Bound.all.find? (·.key == key) = some b) {least greatest : Setting.Number ℝ}
    (hl : b.least.number? = some least) (hg : b.greatest.number? = some greatest) :
    ∃ x, settings.requireReal key = .ok x ∧ least.value ≤ x ∧ x ≤ greatest.value := by
  obtain ⟨value, found⟩ := Option.isSome_iff_exists.mp set
  obtain ⟨x, read, within⟩ := exists_number_of_validate valid found bound hl hg
  refine ⟨x, ?_, within⟩
  rw [requireReal, require, found]
  exact read

/-- A number that is read from valid settings lies within the bound of its name. -/
theorem Settings.within_of_validate {settings : Settings ℝ} (valid : settings.validate = .ok ())
    {key : String} {x : ℝ} (read : settings.requireReal key = .ok x) {b : Bound ℝ}
    (bound : Bound.all.find? (·.key == key) = some b) {least greatest : Setting.Number ℝ}
    (hl : b.least.number? = some least) (hg : b.greatest.number? = some greatest) :
    least.value ≤ x ∧ x ≤ greatest.value := by
  rw [requireReal, bind_eq_ok_iff] at read
  obtain ⟨value, required, read⟩ := read
  have found := require_eq_ok_iff.mp required
  obtain ⟨y, value_eq, within⟩ := exists_number_of_validate valid found bound hl hg
  cases value_eq.symm.trans read
  exact within

theorem Settings.validate_defaults : (Settings.defaults : Settings ℝ).validate = .ok () :=
  forM_eq_ok_iff.mpr Bound.check_defaults

end ParticleMomentum
