import ParticleMomentum.Proofs.Trail
import ParticleMomentum.Smoothing.Kernel

/-!
# The life of a kernel

The settings of a kernel may be edited between one setup and the next. Once a kernel is ready, its radius
is a number that a setup accepted, its dimension is allowed and its smoothing length belongs to the
radius. Its normalization belongs to these as well, unless they have none: then it may be left over from
an earlier setup.
-/

namespace ParticleMomentum.Kernel

variable {α : Type} [Arithmetic α] {spline : Spline} {config : Setting α} {k : Kernel α}
variable {radius : α} {dimension : Nat}

/-! ## Setups -/

/-- The settings of a kernel ask for a radius, which passes the check, and for a dimension. -/
def Wants (k : Kernel α) (radius : α) (dimension : Nat) : Prop :=
  ∃ number, k.wantedRadius = .ok number ∧ number.toReal = .ok radius ∧
    k.wantedDimension = .ok dimension

/-- The kernel in the middle of a setup, when the normalization is yet to be tried. -/
def rescaled (k : Kernel α) (radius : α) (dimension : Nat) : Kernel α :=
  { k with
    supportRadius := radius
    dimension
    smoothingLength := radius / k.spline.supportRatio }

theorem wantedRadius_checked {number : Setting.Number α} (h : k.wantedRadius = .ok number) :
    number.atMost (.whole 0) = false := by
  rw [wantedRadius, bind_eq_ok_iff] at h
  obtain ⟨found, -, h⟩ := h
  split at h
  · split at h
    · cases h
    · next positive =>
      cases h
      exact Bool.not_eq_true _ ▸ positive
  · cases h

theorem wantedDimension_allowed (h : k.wantedDimension = .ok dimension) : dimension ∈ [1, 2, 3] := by
  rw [wantedDimension, bind_eq_ok_iff] at h
  obtain ⟨wanted, -, h⟩ := h
  split at h
  · next d found =>
    cases h
    exact List.mem_of_find?_eq_some found
  · cases h

theorem setup_of_wants (h : k.Wants radius dimension) :
    k.setup =
      match k.spline.normalization dimension (radius / k.spline.supportRatio) with
      | .error e => (k.rescaled radius dimension, .error e)
      | .ok c => ({ k.rescaled radius dimension with normalization := c, ready := true }, .ok ()) := by
  obtain ⟨number, hnumber, hradius, hdimension⟩ := h
  have wanted : (do
      let number ← k.wantedRadius
      let dimension ← k.wantedDimension
      return (← number.toReal, dimension) : Except (Fault α) (α × Nat)) = .ok (radius, dimension) :=
    bind_eq_ok_iff.mpr ⟨number, hnumber, bind_eq_ok_iff.mpr ⟨dimension, hdimension,
      bind_eq_ok_iff.mpr ⟨radius, hradius, rfl⟩⟩⟩
  simp only [setup, wanted]
  rfl

/-- A setup that finds no radius or no dimension changes nothing. -/
theorem setup_of_not_wants (h : ∀ radius dimension, ¬ k.Wants radius dimension) :
    ∃ e, k.setup = (k, .error e) := by
  rw [setup]
  dsimp only
  split
  · next e _ => exact ⟨e, rfl⟩
  · next radius dimension wanted =>
    simp only [bind_eq_ok_iff, pure_eq_ok_iff] at wanted
    obtain ⟨number, hnumber, _, hdimension, r, hradius, hpair⟩ := wanted
    cases hpair
    exact absurd ⟨number, hnumber, hradius, hdimension⟩ (h _ _)

/-- What a setup can do: nothing, stop at the normalization, or go through. -/
theorem setup_cases (k : Kernel α) :
    (∃ e, k.setup = (k, .error e)) ∨
    ∃ radius dimension, k.Wants radius dimension ∧
      ((∃ e, k.spline.normalization dimension (radius / k.spline.supportRatio) = .error e ∧
          k.setup = (k.rescaled radius dimension, .error e)) ∨
        ∃ c, k.spline.normalization dimension (radius / k.spline.supportRatio) = .ok c ∧
          k.setup =
            ({ k.rescaled radius dimension with normalization := c, ready := true }, .ok ())) := by
  by_cases wants : ∃ radius dimension, k.Wants radius dimension
  · obtain ⟨radius, dimension, wants⟩ := wants
    have goesOn := setup_of_wants wants
    refine .inr ⟨radius, dimension, wants, ?_⟩
    rcases h : k.spline.normalization dimension (radius / k.spline.supportRatio) with e | c
    · rw [h] at goesOn
      exact .inl ⟨e, rfl, goesOn⟩
    · rw [h] at goesOn
      exact .inr ⟨c, rfl, goesOn⟩
  · exact .inl (setup_of_not_wants fun radius dimension h => wants ⟨radius, dimension, h⟩)

/-- A kernel is created just if its settings ask for a radius and a dimension and the profile can be
normalized; all that it holds is derived from these. -/
theorem create_eq_ok_iff :
    create spline config = .ok k ↔
      ∃ radius dimension c, (make spline config).Wants radius dimension ∧
        spline.normalization dimension (radius / spline.supportRatio) = .ok c ∧
        k =
          { spline, config, dimension
            supportRadius := radius
            smoothingLength := radius / spline.supportRatio
            normalization := c
            ready := true } := by
  constructor
  · intro h
    rw [create] at h
    obtain ⟨e, stays⟩ | ⟨radius, dimension, wants, ⟨e, -, stops⟩ | ⟨c, hc, through⟩⟩ :=
      setup_cases (make spline config)
    · rw [stays] at h
      cases h
    · rw [stops] at h
      cases h
    · rw [through] at h
      cases h
      exact ⟨radius, dimension, c, wants, hc, rfl⟩
  · rintro ⟨radius, dimension, c, wants, hc, rfl⟩
    have through := setup_of_wants wants
    rw [show (make spline config).spline = spline from rfl, hc] at through
    rw [create, through]
    rfl

/-! ## Kernels through edits -/

inductive Reachable : Kernel α → Prop where
  | made (spline : Spline) (config : Setting α) : Reachable (make spline config)
  | edited {k : Kernel α} (h : Reachable k) (edit : Edit α) : Reachable (k.edit edit).1

/-- A kernel that was created has gone through a setup, and is ready. -/
theorem reachable_of_create (h : create spline config = .ok k) : k.Reachable ∧ k.ready = true := by
  obtain ⟨radius, dimension, c, wants, hc, rfl⟩ := create_eq_ok_iff.mp h
  have through := setup_of_wants wants
  rw [show (make spline config).spline = spline from rfl, hc] at through
  have reached := (Reachable.made spline config).edited .setup
  rw [edit, through] at reached
  exact ⟨reached, rfl⟩

/-- What a kernel has derived from settings. A normalization that cannot be computed is left open. -/
structure Derived (k : Kernel α) : Prop where
  radius : ∃ number : Setting.Number α, number.atMost (.whole 0) = false ∧
    number.toReal = .ok k.supportRadius
  dimension : k.dimension ∈ [1, 2, 3]
  length : k.smoothingLength = k.supportRadius / k.spline.supportRatio
  normalization : ∀ c, k.spline.normalization k.dimension k.smoothingLength = .ok c →
    k.normalization = c

/-- The radius is positive and the dimension allowed, and smoothing length and normalization belong to
them. -/
structure SelfConsistent (k : Kernel α) : Prop where
  radius_pos : 0.0 < k.supportRadius
  dimension : k.dimension ∈ [1, 2, 3]
  length : k.smoothingLength = k.supportRadius / k.spline.supportRatio
  normalization : k.spline.normalization k.dimension k.smoothingLength = .ok k.normalization

theorem derived_rescaled (wants : k.Wants radius dimension) {c : α}
    (h : ∀ c', k.spline.normalization dimension (radius / k.spline.supportRatio) = .ok c' → c = c') :
    ({ k.rescaled radius dimension with normalization := c } : Kernel α).Derived := by
  obtain ⟨number, hnumber, hradius, hdimension⟩ := wants
  exact ⟨⟨number, wantedRadius_checked hnumber, hradius⟩, wantedDimension_allowed hdimension, rfl, h⟩

/-- A setup derives everything anew, or changes nothing; what it cannot normalize is left open. -/
theorem setup_derived (h : k.ready = true → k.Derived) (ready : k.setup.1.ready = true) :
    k.setup.1.Derived := by
  obtain ⟨e, stays⟩ | ⟨radius, dimension, wants, ⟨e, he, stops⟩ | ⟨c, hc, through⟩⟩ := setup_cases k
  · rw [stays] at ready ⊢
    exact h ready
  · rw [stops]
    refine derived_rescaled (c := k.normalization) wants fun c hc => ?_
    rw [he] at hc
    cases hc
  · rw [through]
    have derived := derived_rescaled (c := c) wants fun c' hc' => Except.ok.inj (hc.symm.trans hc')
    exact ⟨derived.radius, derived.dimension, derived.length, derived.normalization⟩

/-- Other settings do not touch what was derived from the old ones. -/
theorem reconfigured_derived (h : k.ready = true → k.Derived) (config : Except (Fault α) (Setting α))
    (ready : (k.reconfigured config).1.ready = true) : (k.reconfigured config).1.Derived := by
  cases config with
  | error e => exact h ready
  | ok config =>
      have derived := h ready
      exact ⟨derived.radius, derived.dimension, derived.length, derived.normalization⟩

theorem edit_derived (h : k.ready = true → k.Derived) (edit : Edit α)
    (ready : (k.edit edit).1.ready = true) : (k.edit edit).1.Derived := by
  cases edit with
  | put key value => exact reconfigured_derived h _ ready
  | erase key => exact reconfigured_derived h _ ready
  | setup => exact setup_derived h ready

theorem Reachable.derived (h : k.Reachable) : k.ready = true → k.Derived := by
  induction h with
  | made spline config => exact nofun
  | edited _ edit ih => exact edit_derived ih edit

/-- A kernel has derived all that it should if its radius is positive and can be normalized. -/
theorem Derived.selfConsistent (h : k.Derived) (pos : 0.0 < k.supportRadius)
    (normalizes : ∃ c, k.spline.normalization k.dimension k.smoothingLength = .ok c) :
    k.SelfConsistent := by
  obtain ⟨c, hc⟩ := normalizes
  exact ⟨pos, h.dimension, h.length, h.normalization c hc ▸ hc⟩

end ParticleMomentum.Kernel
