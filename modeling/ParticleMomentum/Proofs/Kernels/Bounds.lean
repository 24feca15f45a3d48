import ParticleMomentum.Catalogue
import ParticleMomentum.Proofs.Arithmetic.Powers
import ParticleMomentum.Proofs.Kernels
import ParticleMomentum.Proofs.Settings.Bounds

/-!
# Kernels of valid settings

Settings that pass the check of the bounds ask for a support radius between `1e-6` and `1e3`, if they name
one that is positive. In this range smoothing lengths, their powers and all normalizations stay far from
the ends of the doubles. So the only reasons for which a kernel of valid settings can be refused are those
that it states itself: there is no positive radius, or the dimension is not allowed.
-/

namespace ParticleMomentum

open Arithmetic

/-- A radius between the bounds of its setting is read as a number between them, and every profile has a
positive smoothing length and a positive normalization for it. -/
def NormalizesBounds (α : Type) [Arithmetic α] : Prop :=
  ∀ number : Setting.Number α, Setting.Number.atMost (.real 1e-6) number = true →
    number.atMost (.real 1e3) = true →
    ∃ radius, number.toReal = .ok radius ∧ 1e-6 ≤ radius ∧ radius ≤ 1e3 ∧
      ∀ (spline : Spline), 0.0 < radius / spline.supportRatio ∧
        ∀ d ∈ [1, 2, 3], ∃ c,
          spline.normalization d (radius / spline.supportRatio) = .ok c ∧ 0.0 < c

/-! ## Doubles -/

namespace Double

open Float.Model

variable {power : Float → Nat → Float} {x : Doubles power} {a b : Int}

/-- No quotient by a multiple of a moderate power overflows or vanishes. -/
theorem exists_quotient_scaled {c f p : Doubles power} (hc : Between 0 7 c) (hf : Between 1 11 f)
    (hp : Between (-67) 32 p) : ∃ z : Doubles power, quotient c (f * p) = .ok z ∧ 0.0 < z := by
  have scaled : Between (-66) 44 (f * p : Doubles power) := hf.mul hp (by decide) (by decide)
  have nonzero : isZero (f * p) = false := isZero_of_pos scaled.pos
  refine ⟨c / (f * p), ?_, (hc.div scaled (by decide) (by decide)).pos⟩
  rw [quotient, nonzero]
  rfl

theorem boundedPower_of_between {k : Nat} (h : Between a b (power x k)) :
    boundedPower x k = .ok (power x k) := by
  have finite : isFinite (Arithmetic.power x k) = true := h.isFinite
  rw [boundedPower, finite, Bool.not_true, Bool.and_false, Bool.false_and]
  rfl

/-- The normalizations of a smoothing length that is neither very small nor very large. -/
theorem exists_normalization (faithful : FaithfulPower power) {h : Doubles power}
    (hh : Between (-22) 10 h) (spline : Spline) {d : Nat} (hd : d ∈ [1, 2, 3]) :
    ∃ c, spline.normalization d h = .ok c ∧ 0.0 < c := by
  have length : Between (-67) 32 h := hh.mono (by decide) (by decide)
  have square : Between (-45) 22 (power h 2) := between_power faithful hh 2 (by decide) (by decide)
  have cube : Between (-67) 32 (power h 3) := between_power faithful hh 3 (by decide) (by decide)
  have squared := boundedPower_of_between square
  have cubed := boundedPower_of_between cube
  have one : Between 0 7 (1.0 : Float) := by decide +kernel
  simp only [List.mem_cons, List.not_mem_nil, or_false] at hd
  cases spline with
  | cubic =>
      rcases hd with rfl | rfl | rfl
      · have two : Between 0 7 (2.0 : Float) := by decide +kernel
        have factor : Between 1 11 (3.0 : Float) := by decide +kernel
        exact exists_quotient_scaled two factor length
      · have ten : Between 0 7 (10.0 : Float) := by decide +kernel
        have factor : Between 1 11 ((7.0 : Float) * pi) := by decide +kernel
        rw [Spline.normalization, if_neg (by decide), if_pos rfl, squared]
        exact exists_quotient_scaled ten factor (square.mono (by decide) (by decide))
      · have factor : Between 1 11 (pi : Float) := by decide +kernel
        rw [Spline.normalization, if_neg (by decide), if_neg (by decide), cubed]
        exact exists_quotient_scaled one factor cube
  | quintic =>
      rcases hd with rfl | rfl | rfl
      · have factor : Between 1 11 (120.0 : Float) := by decide +kernel
        exact exists_quotient_scaled one factor length
      · have seven : Between 0 7 (7.0 : Float) := by decide +kernel
        have factor : Between 1 11 ((478.0 : Float) * pi) := by decide +kernel
        rw [Spline.normalization, if_neg (by decide), if_pos rfl, squared]
        exact exists_quotient_scaled seven factor (square.mono (by decide) (by decide))
      · have factor : Between 1 11 ((120.0 : Float) * pi) := by decide +kernel
        rw [Spline.normalization, if_neg (by decide), if_neg (by decide), cubed]
        exact exists_quotient_scaled one factor cube

/-! ### Radii between the bounds -/

theorem le_of_lt {x y : Float} (h : x < y) : x ≤ y := by
  have less : UnpackedFloat.lt x.toModel.unpack y.toModel.unpack = true :=
    of_decide_eq_true (p := x.toModel < y.toModel) h
  have atMost : UnpackedFloat.le x.toModel.unpack y.toModel.unpack = true := by
    rw [UnpackedFloat.lt, beq_iff_eq] at less
    rw [UnpackedFloat.le, less]
    rfl
  exact decide_eq_true atMost

theorem le_of_atMost {x y : Float} (h : (Setting.Number.real x).atMost (.real y) = true) : x ≤ y := by
  by_contra notAtMost
  have notLess : ¬ x < y := fun less => notAtMost (le_of_lt less)
  have above : Arithmetic.compare? x y = some .gt ∨ Arithmetic.compare? x y = none := by
    rw [Arithmetic.compare?, if_neg notLess, if_neg notAtMost]
    split
    · exact .inl rfl
    · exact .inr rfl
  have refused : (Setting.Number.real x).atMost (.real y) = false :=
    Setting.Number.atMost_eq_false_iff.mpr above
  exact absurd h (Bool.eq_false_iff.mp refused)

/-- The integers between the bounds are those from one to a thousand. -/
theorem whole_of_atMost {n : Int}
    (least : Setting.Number.atMost (.real (1e-6 : Float)) (.whole n) = true)
    (most : Setting.Number.atMost (.whole n) (.real (1e3 : Float)) = true) : 1 ≤ n ∧ n ≤ 1000 := by
  have bottom : parts 1e-6 = .finite false 4722366482869645 (-72) := by decide +kernel
  have top : parts 1e3 = .finite false (1000 * 2 ^ 43) (-43) := by decide +kernel
  have lower : compareInt? 1e-6 n = some (compare (4722366482869645 : Int) (n * 2 ^ 72)) := by
    rw [compareInt?, bottom]
    rfl
  have upper : compareInt? 1e3 n = some (compare (1000 * 2 ^ 43 : Int) (n * 2 ^ 43)) := by
    rw [compareInt?, top]
    rfl
  constructor
  · by_contra small
    have above : compare (4722366482869645 : Int) (n * 2 ^ 72) = .gt :=
      Int.compare_eq_gt.mpr (by omega)
    have refused : Setting.Number.atMost (.real (1e-6 : Float)) (.whole n) = false :=
      Setting.Number.atMost_eq_false_iff.mpr (.inl (lower.trans (congrArg some above)))
    exact absurd least (Bool.eq_false_iff.mp refused)
  · by_contra large
    have below : compare (1000 * 2 ^ 43 : Int) (n * 2 ^ 43) = .lt := Int.compare_eq_lt.mpr (by omega)
    have above : (compareInt? 1e3 n).map Ordering.swap = some .gt := by
      rw [upper, below]
      rfl
    have refused : Setting.Number.atMost (.whole n) (.real (1e3 : Float)) = false :=
      Setting.Number.atMost_eq_false_iff.mpr (.inl above)
    exact absurd most (Bool.eq_false_iff.mp refused)

/-- The smoothing length of a radius between the bounds. -/
theorem between_smoothingLength {radius : Doubles power} (hr : Between (-20) 10 radius)
    (spline : Spline) :
    Between (-22) 10 (radius / (spline.supportRatio : Doubles power)) := by
  cases spline with
  | cubic =>
      have two : Between 1 2 (2.0 : Float) := by decide +kernel
      exact hr.div two (by decide) (by decide)
  | quintic =>
      have three : Between 1 2 (3.0 : Float) := by decide +kernel
      exact hr.div three (by decide) (by decide)

/-- Radii between the bounds are neither very small nor very large, and are rounded to such if they are
whole numbers. -/
theorem normalizesBounds (faithful : FaithfulPower power) : NormalizesBounds (Doubles power) := by
  have bottom : Between (-20) (-19) (1e-6 : Float) := by decide +kernel
  have top : Between 9 10 (1e3 : Float) := by decide +kernel
  intro number least most
  obtain ⟨radius, read, lower, upper⟩ :
      ∃ radius : Doubles power, number.toReal = .ok radius ∧ 1e-6 ≤ radius ∧ radius ≤ 1e3 := by
    cases number with
    | real x => exact ⟨x, rfl, le_of_atMost least, le_of_atMost most⟩
    | whole n =>
        obtain ⟨one, thousand⟩ := whole_of_atMost least most
        obtain ⟨k, rfl⟩ := Int.eq_ofNat_of_zero_le (show 0 ≤ n by omega)
        obtain ⟨lower, upper⟩ := ofInt_mem (show 1 ≤ k by omega) (show k ≤ 1000 by omega)
        have finite := (between_of_le_of_le bottom top (by decide) lower upper).isFinite
        have read : (Setting.Number.whole (k : Int) : Setting.Number (Doubles power)).toReal =
            .ok (Float.ofInt k) :=
          if_pos finite
        exact ⟨Float.ofInt k, read, lower, upper⟩
  have hr : Between (-20) 10 radius := between_of_le_of_le bottom top (by decide) lower upper
  refine ⟨radius, read, lower, upper, fun spline => ?_⟩
  have length := between_smoothingLength hr spline
  exact ⟨length.pos, fun d hd => exists_normalization faithful length spline hd⟩

end Double

/-! ## Kernels of valid settings -/

variable {α : Type} [Arithmetic α] {config : Settings α}

namespace Kernel

/-- The kernel is ready for a radius between the bounds and an allowed dimension. These give it a positive
smoothing length and a positive normalization. -/
structure WellScaled (k : Kernel α) : Prop where
  ready : k.ready = true
  radius_least : 1e-6 ≤ k.supportRadius
  radius_greatest : k.supportRadius ≤ 1e3
  dimension : k.dimension ∈ [1, 2, 3]
  length : k.smoothingLength = k.supportRadius / k.spline.supportRatio
  length_pos : 0.0 < k.smoothingLength
  normalization : k.spline.normalization k.dimension k.smoothingLength = .ok k.normalization
  normalization_pos : 0.0 < k.normalization

/-- The radius that valid settings ask for, if there is one, lies between the bounds. -/
theorem wantedRadius_of_valid (spline : Spline) (valid : config.validate = .ok ()) :
    (make spline (.record config)).wantedRadius = .error (.radiusNotPositive spline.className) ∨
    ∃ number : Setting.Number α, (make spline (.record config)).wantedRadius = .ok number ∧
      Setting.Number.atMost (.real 1e-6) number = true ∧ number.atMost (.real 1e3) = true := by
  cases found : config.find? "support_radius" with
  | none =>
      have looked : (make spline (.record config)).config.lookup "support_radius" = .ok none :=
        congrArg Except.ok found
      rw [wantedRadius, looked]
      exact .inl rfl
  | some value =>
      have looked : (make spline (.record config)).config.lookup "support_radius" = .ok (some value) :=
        congrArg Except.ok found
      obtain ⟨number, numeric, holds⟩ := Settings.holds_of_validate valid (List.mem_cons_self ..) found
      obtain ⟨least, greatest⟩ := Bool.and_eq_true_iff.mp holds
      rw [wantedRadius, looked]
      simp only [bind, Except.bind, Option.bind_some, Bound.number?_of_numeric? numeric]
      by_cases refused : number.atMost (.whole 0) = true
      · exact .inl (if_pos refused)
      · exact .inr ⟨number, if_neg refused, least, greatest⟩

theorem wantedDimension_of_record (spline : Spline) (config : Settings α) :
    (make spline (.record config)).wantedDimension =
        .error (.dimensionNotAllowed spline.className (config.findD "kernel_space_dim" (.whole 3))) ∨
      ∃ d, (make spline (.record config)).wantedDimension = .ok d := by
  have looked : (make spline (.record config)).config.lookupD "kernel_space_dim" (.whole 3) =
      .ok (config.findD "kernel_space_dim" (.whole 3)) :=
    rfl
  rw [wantedDimension, looked]
  simp only [bind, Except.bind]
  cases dimension? (config.findD "kernel_space_dim" (.whole 3)) with
  | none => exact .inl rfl
  | some d => exact .inr ⟨d, rfl⟩

theorem create_of_radius_error {spline : Spline} {config : Setting α} {fault : Fault α}
    (h : (make spline config).wantedRadius = .error fault) : create spline config = .error fault := by
  rw [create, setup, h]
  rfl

theorem create_of_dimension_error {spline : Spline} {config : Setting α} {number : Setting.Number α}
    {fault : Fault α}
    (hr : (make spline config).wantedRadius = .ok number)
    (hd : (make spline config).wantedDimension = .error fault) :
    create spline config = .error fault := by
  rw [create, setup, hr, hd]
  rfl

/-- A kernel of valid settings is scaled well, unless it is refused for its radius or its dimension. -/
theorem create_of_valid (bounds : NormalizesBounds α) (valid : config.validate = .ok ())
    (spline : Spline) :
    (∃ k, create spline (.record config) = .ok k ∧ k.WellScaled) ∨
    create spline (.record config) = .error (.radiusNotPositive spline.className) ∨
    create spline (.record config) =
      .error (.dimensionNotAllowed spline.className (config.findD "kernel_space_dim" (.whole 3))) := by
  rcases wantedRadius_of_valid spline valid with refused | ⟨number, hr, least, greatest⟩
  · exact .inr (.inl (create_of_radius_error refused))
  rcases wantedDimension_of_record spline config with refused | ⟨d, hd⟩
  · exact .inr (.inr (create_of_dimension_error hr refused))
  obtain ⟨radius, read, above, below, scales⟩ := bounds number least greatest
  obtain ⟨positive, normalizes⟩ := scales spline
  have allowed := wantedDimension_allowed hd
  obtain ⟨c, hc, normalized⟩ := normalizes d allowed
  refine .inl ⟨_, create_eq_ok_iff.mpr ⟨radius, d, c, ⟨number, hr, read, hd⟩, hc, rfl⟩, ?_⟩
  exact ⟨rfl, above, below, allowed, rfl, positive, hc, normalized⟩

end Kernel

namespace Catalogue

variable {id : Setting α} {k : Kernel α}

theorem createKernel_wellScaled (bounds : NormalizesBounds α) (valid : config.validate = .ok ())
    (h : createKernel id (.record config) = .ok k) : k.WellScaled := by
  simp only [createKernel, bind_eq_ok_iff] at h
  obtain ⟨d, -, spline, -, settings, held, created⟩ := h
  cases held
  rcases Kernel.create_of_valid bounds valid spline with ⟨k', made, scaled⟩ | refused | refused
  · cases made.symm.trans created
    exact scaled
  · cases refused.symm.trans created
  · cases refused.symm.trans created

/-- The kernel of an identifier in the catalogue has the class that its definition names. -/
theorem createKernel_of_mem {d : Definition α} (hd : d ∈ kernels) (hid : d.require "id" = .ok id) :
    ∃ spline, className d = spline.className ∧
      createKernel id (.record config) = Kernel.create spline (.record config) := by
  rw [kernels, List.mem_cons, List.mem_singleton] at hd
  rcases hd with rfl | rfl
  · cases hid
    exact ⟨.cubic, rfl, rfl⟩
  · cases hid
    exact ⟨.quintic, rfl, rfl⟩

/-- A kernel from the catalogue is refused for its radius or its dimension, if it is refused for valid
settings. -/
theorem createKernel_refused (bounds : NormalizesBounds α) (valid : config.validate = .ok ())
    {d : Definition α} (hd : d ∈ kernels) (hid : d.require "id" = .ok id) {fault : Fault α}
    (h : createKernel id (.record config) = .error fault) :
    fault = .radiusNotPositive (className d) ∨
      fault = .dimensionNotAllowed (className d) (config.findD "kernel_space_dim" (.whole 3)) := by
  obtain ⟨spline, name, made⟩ := createKernel_of_mem hd hid
  rw [made] at h
  rw [name]
  rcases Kernel.create_of_valid bounds valid spline with ⟨k, created, -⟩ | refused | refused
  · cases created.symm.trans h
  · exact .inl (Except.error.inj (h.symm.trans refused))
  · exact .inr (Except.error.inj (h.symm.trans refused))

end Catalogue

end ParticleMomentum
