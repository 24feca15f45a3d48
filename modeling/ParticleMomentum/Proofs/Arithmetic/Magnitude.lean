import ParticleMomentum.Proofs.Arithmetic.Signs

/-!
# The magnitude of doubles

A positive double between two powers of two has all the bits of its significand, unless it is very small.
Products and quotients of such doubles are again of this kind, between powers of two that add up or
subtract, up to one place for the significands and one for the rounding. So as long as the powers stay
away from the ends of the range, no operation overflows or loses bits.
-/

namespace ParticleMomentum.Double

open Float.Model Float.Model.UnpackedFloat

/-! ## Rounding -/

theorem ofMantissaAndAccuracy_mantissa (m : Nat) (accuracy : Accuracy) :
    (ExtendedMantissa.ofMantissaAndAccuracy m accuracy).mantissa = m := by
  rcases accuracy with _ | ⟨_ | _ | _⟩ <;> rfl

theorem roundedMantissa_le (x : ExtendedMantissa) : x.roundedMantissa ≤ x.mantissa + 1 := by
  obtain ⟨m, _ | _, _ | _⟩ := x
  · exact Nat.le_succ m
  · exact Nat.le_succ m
  · exact Nat.add_le_add_left (Nat.le_of_lt_succ (Nat.mod_lt m Nat.two_pos)) m
  · exact Nat.le_refl (m + 1)

/-- A number with enough bits is brought to a significand of fifty-three bits. -/
theorem shiftToTargetExponent_full {m : Nat} {e e' : Int} {accuracy : Accuracy} {x : ExtendedMantissa}
    (full : 52 ≤ m.log2) (least : -1074 ≤ m.log2 + e - 52)
    (h : shiftToTargetExponent .binary64 m e accuracy = (x, e')) :
    x.mantissa = m / 2 ^ (m.log2 - 52) ∧ x.mantissa.log2 = 52 ∧ e' + 52 = m.log2 + e := by
  have positive : m ≠ 0 := by
    rintro rfl
    exact absurd full (by decide)
  obtain ⟨k, hk⟩ :
      ∃ k, k = (Format.binary64.targetExponent (totalExponent m e) - e).toNat := ⟨_, rfl⟩
  rw [shiftToTargetExponent, shiftToExponent, ← hk] at h
  cases h
  rw [targetExponent_binary64] at hk
  have places : k = m.log2 - 52 := by omega
  subst places
  have bits : m.log2 = 52 + (m.log2 - 52) := by omega
  have lower : 2 ^ 52 * 2 ^ (m.log2 - 52) ≤ m := by
    rw [← Nat.pow_add, ← bits]
    exact Nat.log2_self_le positive
  have upper : m < 2 ^ (m.log2 - 52) * 2 ^ 53 := by
    rw [← Nat.pow_add, show m.log2 - 52 + 53 = m.log2 + 1 by omega]
    exact Nat.lt_log2_self
  have half : 2 ^ 52 ≤ m / 2 ^ (m.log2 - 52) := (Nat.le_div_iff_mul_le (Nat.two_pow_pos _)).mpr lower
  have most : m / 2 ^ (m.log2 - 52) < 2 ^ 53 := Nat.div_lt_of_lt_mul upper
  rw [shiftRight_mantissa, ofMantissaAndAccuracy_mantissa]
  exact ⟨rfl, (Nat.log2_eq_iff (by omega)).mpr ⟨half, most⟩, by omega⟩

/-- Rounding keeps the power of two below a number, or goes up to the next one. -/
theorem roundWithAccuracy_full (s : Sign) {m : Nat} {e : Int} (accuracy : Accuracy)
    (full : 52 ≤ m.log2) (least : -1074 ≤ m.log2 + e - 52) :
    ∃ m' e' pos, roundWithAccuracy .binary64 s m e accuracy = .finite s m' e' pos ∧ m'.log2 = 52 ∧
      (e' + 52 = m.log2 + e ∨ e' + 52 = m.log2 + e + 1 ∧ m' = 2 ^ 52) := by
  rcases first : shiftToTargetExponent .binary64 m e accuracy with ⟨x, e₁⟩
  obtain ⟨-, bits, exponent⟩ := shiftToTargetExponent_full full least first
  have nonzero : x.mantissa ≠ 0 := by
    intro zero
    rw [zero] at bits
    exact absurd bits (by decide)
  obtain ⟨half, most⟩ := (Nat.log2_eq_iff nonzero).mp bits
  have above := le_roundedMantissa x
  have below := roundedMantissa_le x
  rcases last : shiftToTargetExponent .binary64 x.roundedMantissa e₁ .exact with ⟨y, e₂⟩
  have roundedNonzero : x.roundedMantissa ≠ 0 := by omega
  rcases Nat.lt_or_ge x.roundedMantissa (2 ^ 53) with fits | carries
  · have rounded : x.roundedMantissa.log2 = 52 := (Nat.log2_eq_iff roundedNonzero).mpr ⟨by omega, fits⟩
    obtain ⟨-, bits₂, exponent₂⟩ := shiftToTargetExponent_full (by omega) (by omega) last
    have pos : y.mantissa ≠ 0 := by
      intro zero
      rw [zero] at bits₂
      exact absurd bits₂ (by decide)
    refine ⟨y.mantissa, e₂, Nat.pos_of_ne_zero pos, ?_, bits₂, .inl (by omega)⟩
    simp only [roundWithAccuracy, first, last, dif_neg pos]
  · have carried : x.roundedMantissa = 2 ^ 53 := by omega
    have rounded : x.roundedMantissa.log2 = 53 := by
      rw [carried]
      exact Nat.log2_two_pow
    obtain ⟨dropped, bits₂, exponent₂⟩ := shiftToTargetExponent_full (by omega) (by omega) last
    have power : y.mantissa = 2 ^ 52 := by
      rw [dropped, rounded, carried]
      decide
    have pos : y.mantissa ≠ 0 := by omega
    refine ⟨y.mantissa, e₂, Nat.pos_of_ne_zero pos, ?_, bits₂, .inr ⟨by omega, power⟩⟩
    simp only [roundWithAccuracy, first, last, dif_neg pos]

/-- Positive numbers with few bits have bits added before they are rounded. -/
theorem round_full (s : Sign) {m : Nat} {e : Int} (positive : 0 < m) (least : -1074 ≤ m.log2 + e - 52) :
    ∃ m' e' pos, UnpackedFloat.round .binary64 s m e = .finite s m' e' pos ∧ m'.log2 = 52 ∧
      (e' + 52 = m.log2 + e ∨ e' + 52 = m.log2 + e + 1 ∧ m' = 2 ^ 52) := by
  obtain ⟨k, hk⟩ : ∃ k, k = (e - Format.binary64.targetExponent (totalExponent m e)).toNat := ⟨_, rfl⟩
  have bits : (m * 2 ^ k).log2 = m.log2 + k := log2_mul_two_pow positive k
  have shifted : UnpackedFloat.round .binary64 s m e =
      roundWithAccuracy .binary64 s (m * 2 ^ k) (e - k) .exact := by
    rw [UnpackedFloat.round, decreaseExponent, ← hk, Nat.shiftLeft_eq]
  rw [targetExponent_binary64] at hk
  have full : 52 ≤ (m * 2 ^ k).log2 := by omega
  have order : ((m * 2 ^ k).log2 : Int) + (e - k) = m.log2 + e := by omega
  obtain ⟨m', e', pos, rounded, full', place⟩ :=
    roundWithAccuracy_full s .exact full (order ▸ least)
  exact ⟨m', e', pos, shifted.trans rounded, full', order ▸ place⟩

/-! ## Packing -/

/-- A number with a full significand and an exponent in range is the double that it is packed into. -/
theorem unpack_pack_full (s : Sign) {m : Nat} {e : Int} (pos : 0 < m) (full : m.log2 = 52)
    (least : -1074 ≤ e) (most : e ≤ 971) :
    UnpackedFloat.unpack .binary64 (UnpackedFloat.pack .binary64 (.finite s m e pos)) =
      .finite s m e pos := by
  obtain ⟨half, below⟩ := (Nat.log2_eq_iff (Nat.ne_of_gt pos)).mp full
  obtain ⟨biased, hb⟩ : ∃ biased : Nat, (biased : Int) = e + 1075 := ⟨(e + 1075).toNat, by omega⟩
  have packed : UnpackedFloat.pack .binary64 (.finite s m e pos) =
      packComponents .binary64 s (BitVec.ofNat 11 biased) (BitVec.ofNat 52 m) := by
    have exponent : (e + Format.binary64.exponentBias + 52).toNat = biased := by
      change (e + (1023 : Nat) + 52).toNat = biased
      omega
    change (if 2 ^ 11 ≤ (e + Format.binary64.exponentBias + 52).toNat + 1 then _
      else if m.log2 + 1 = 53 then packComponents .binary64 s
        (BitVec.ofNat 11 (e + Format.binary64.exponentBias + 52).toNat) (BitVec.ofNat 52 m) else _) = _
    rw [exponent, if_neg (by omega), if_pos (by omega)]
  have notSpecial : BitVec.ofNat 11 biased ≠ -1#11 := by bv_omega
  have notSubnormal : BitVec.ofNat 11 biased ≠ 0#11 := by bv_omega
  have sign := ParticleMomentum.Double.unpackSign_packComponents s (BitVec.ofNat 11 biased)
    (BitVec.ofNat 52 m)
  rw [packed, UnpackedFloat.unpack]
  simp only [unpackExponent_packComponents, unpackMantissa_packComponents, sign]
  rw [if_neg notSpecial, if_neg notSubnormal]
  have significand : (1#1 ++ BitVec.ofNat 52 m).toNat = m := by
    rw [toNat_implicit_append, BitVec.toNat_ofNat, Nat.mod_eq_sub_mod half]
    omega
  have exponent : ((BitVec.ofNat 11 biased).toNat : Int) - (1023 + 52 : Nat) = e := by
    rw [BitVec.toNat_ofNat, Nat.mod_eq_of_lt (by omega)]
    omega
  rw [UnpackedFloat.finite.injEq]
  exact ⟨rfl, significand, exponent⟩

/-! ## Powers of two around a double -/

/-- A positive number with a full significand that is at least one power of two and below another. -/
def UnpackedBetween (lo hi : Int) : UnpackedFloat → Prop
  | .finite .positive m e _ => m.log2 = 52 ∧ lo ≤ e + 52 ∧ e + 52 < hi
  | _ => False

instance (lo hi : Int) : DecidablePred (UnpackedBetween lo hi) := fun x =>
  match x with
  | .finite .positive m e _ =>
    inferInstanceAs (Decidable (m.log2 = 52 ∧ lo ≤ e + 52 ∧ e + 52 < hi))
  | .finite .negative _ _ _ | .infinity _ | .notANumber | .zero _ => isFalse not_false

/-- A double is at least `2 ^ lo` and less than `2 ^ hi`, and none of the very small ones. -/
def Between (lo hi : Int) (x : Float) : Prop := UnpackedBetween lo hi x.toModel.unpack

instance (lo hi : Int) : DecidablePred (Between lo hi) := fun x =>
  inferInstanceAs (Decidable (UnpackedBetween lo hi x.toModel.unpack))

variable {x y : Float} {a b c d : Int}

theorem between_iff :
    Between a b x ↔ ∃ m e pos, x.toModel.unpack = .finite .positive m e pos ∧ m.log2 = 52 ∧
      a ≤ e + 52 ∧ e + 52 < b := by
  rw [Between]
  constructor
  · intro h
    rcases hx : x.toModel.unpack with s | _ | s | ⟨s, m, e, pos⟩
    all_goals rw [hx] at h
    case finite =>
      cases s
      · exact h.elim
      · exact ⟨m, e, pos, rfl, h⟩
    all_goals exact h.elim
  · rintro ⟨m, e, pos, hx, within⟩
    rw [hx]
    exact within

/-- A number with a full significand is packed into a double between powers of two. -/
theorem between_pack {m : Nat} {e : Int} {pos : 0 < m} (full : m.log2 = 52) (lower : a ≤ e + 52)
    (upper : e + 52 < b) (least : -1022 ≤ a) (most : b ≤ 1024) :
    Between a b (Float.ofModel (Float.Model.pack (.finite .positive m e pos))) := by
  have whole := unpack_pack_full .positive pos full (show -1074 ≤ e by omega) (by omega)
  rw [Between]
  change UnpackedBetween a b
    (UnpackedFloat.unpack .binary64 (UnpackedFloat.pack .binary64 (.finite .positive m e pos)))
  rw [whole]
  exact ⟨full, lower, upper⟩

theorem Between.mono (h : Between a b x) (lower : c ≤ a) (upper : b ≤ d) : Between c d x := by
  obtain ⟨m, e, pos, hx, full, above, below⟩ := between_iff.mp h
  exact between_iff.mpr ⟨m, e, pos, hx, full, by omega, by omega⟩

theorem Between.pos (h : Between a b x) : 0.0 < x := by
  obtain ⟨m, e, pos, hx, -⟩ := between_iff.mp h
  apply decide_eq_true
  change UnpackedFloat.lt (.zero .positive) x.toModel.unpack = true
  rw [hx]
  rfl

theorem Between.isFinite (h : Between a b x) : x.isFinite = true := by
  obtain ⟨m, e, pos, hx, -⟩ := between_iff.mp h
  change x.toModel.unpack.isFinite = true
  rw [hx]
  rfl

/-- A product of significands of fifty-three bits has one hundred and five bits or one more. -/
theorem log2_mul_full {m m' : Nat} (full : m.log2 = 52) (full' : m'.log2 = 52) :
    (m * m').log2 = 104 ∨ (m * m').log2 = 105 := by
  have nonzero {m : Nat} (full : m.log2 = 52) : m ≠ 0 := by
    rintro rfl
    exact absurd full (by decide)
  obtain ⟨half, most⟩ := (Nat.log2_eq_iff (nonzero full)).mp full
  obtain ⟨half', most'⟩ := (Nat.log2_eq_iff (nonzero full')).mp full'
  have product : m * m' ≠ 0 := Nat.mul_ne_zero (nonzero full) (nonzero full')
  have lower : 2 ^ 52 * 2 ^ 52 ≤ m * m' := Nat.mul_le_mul half half'
  have upper : m * m' < 2 ^ 53 * 2 ^ 53 := Nat.mul_lt_mul'' most most'
  have least : 104 ≤ (m * m').log2 := (Nat.le_log2 product).mpr lower
  have greatest : (m * m').log2 < 106 := (Nat.log2_lt product).mpr upper
  omega

theorem Between.mul (hx : Between a b x) (hy : Between c d y) (least : -1022 ≤ a + c)
    (most : b + d < 1024) : Between (a + c) (b + d + 1) (x * y) := by
  obtain ⟨m, e, pos, hx, full, lower, upper⟩ := between_iff.mp hx
  obtain ⟨m', e', pos', hy, full', lower', upper'⟩ := between_iff.mp hy
  have bits := log2_mul_full full full'
  have product : x * y = Float.ofModel (Float.Model.pack
      (roundWithAccuracy .binary64 .positive (m * m') (e + e') .exact)) := by
    change Float.ofModel (Float.Model.pack
      (UnpackedFloat.mul .binary64 x.toModel.unpack y.toModel.unpack)) = _
    rw [hx, hy]
    rfl
  have enough : 52 ≤ (m * m').log2 := by omega
  have inRange : -1074 ≤ ((m * m').log2 : Int) + (e + e') - 52 := by omega
  obtain ⟨m'', e'', pos'', rounded, full'', place⟩ :=
    roundWithAccuracy_full .positive .exact enough inRange
  rw [product, rounded]
  exact between_pack full'' (by omega) (by omega) least (by omega)

/-- A quotient of significands of fifty-three bits, moved up by as many places, has as many bits or one
more. -/
theorem log2_div_full {m m' : Nat} (full : m.log2 = 52) (full' : m'.log2 = 52) :
    (m <<< 53 / m').log2 = 52 ∨ (m <<< 53 / m').log2 = 53 := by
  have nonzero {m : Nat} (full : m.log2 = 52) : m ≠ 0 := by
    rintro rfl
    exact absurd full (by decide)
  obtain ⟨half, most⟩ := (Nat.log2_eq_iff (nonzero full)).mp full
  obtain ⟨half', most'⟩ := (Nat.log2_eq_iff (nonzero full')).mp full'
  rw [Nat.shiftLeft_eq]
  have lower : 2 ^ 52 ≤ m * 2 ^ 53 / m' := (Nat.le_div_iff_mul_le (by omega)).mpr (by omega)
  have upper : m * 2 ^ 53 / m' < 2 ^ 54 := Nat.div_lt_of_lt_mul (by omega)
  have quotient : m * 2 ^ 53 / m' ≠ 0 := by omega
  have least : 52 ≤ (m * 2 ^ 53 / m').log2 := (Nat.le_log2 quotient).mpr lower
  have greatest : (m * 2 ^ 53 / m').log2 < 54 := (Nat.log2_lt quotient).mpr upper
  omega

theorem Between.div (hx : Between a b x) (hy : Between c d y) (least : -1020 ≤ a - d)
    (most : b - c < 1024) : Between (a - d) (b - c + 1) (x / y) := by
  obtain ⟨m, e, pos, hx, full, lower, upper⟩ := between_iff.mp hx
  obtain ⟨m', e', pos', hy, full', lower', upper'⟩ := between_iff.mp hy
  have bits := log2_div_full full full'
  have target : min (e - e') (Format.binary64.targetExponent
      (totalExponent m e - totalExponent m' e')) = e - e' - 53 := by
    change min (e - e') (max (((m.log2 : Int) + 1 + e) - (m'.log2 + 1 + e') - (53 : Nat))
      (3 - 2 ^ 10 - (53 : Nat))) = _
    omega
  have shift : (e - e' - (e - e' - 53)).toNat = 53 := by omega
  obtain ⟨accuracy, core⟩ : ∃ accuracy, divCore .binary64 m e m' e' =
      (m <<< 53 / m', e - e' - 53, accuracy) := by
    refine ⟨accuracyOfFraction (m <<< 53 % m') m', ?_⟩
    rw [divCore]
    simp only [target, shift]
  have quotient : x / y = Float.ofModel (Float.Model.pack
      (roundWithAccuracy .binary64 .positive (m <<< 53 / m') (e - e' - 53) accuracy)) := by
    change Float.ofModel (Float.Model.pack
      (UnpackedFloat.div .binary64 x.toModel.unpack y.toModel.unpack)) = _
    rw [hx, hy, UnpackedFloat.div, core]
    rfl
  have enough : 52 ≤ (m <<< 53 / m').log2 := by omega
  have inRange : -1074 ≤ ((m <<< 53 / m').log2 : Int) + (e - e' - 53) - 52 := by omega
  obtain ⟨m'', e'', pos'', rounded, full'', place⟩ :=
    roundWithAccuracy_full .positive accuracy enough inRange
  rw [quotient, rounded]
  exact between_pack full'' (by omega) (by omega) (by omega) (by omega)

/-! ## Comparisons -/

section Comparisons

variable {m m' : Nat} {e e' : Int} {pos : 0 < m} {pos' : 0 < m'}

/-- Positive numbers are compared by their exponents first. -/
theorem exponent_le_of_le
    (h : UnpackedFloat.le (.finite .positive m e pos) (.finite .positive m' e' pos') = true) : e ≤ e' := by
  by_contra above
  have greater : compare e e' = .gt := Int.compare_eq_gt.mpr (Int.not_le.mp above)
  rw [UnpackedFloat.le, UnpackedFloat.compare, greater] at h
  cases h

theorem unpackedLe_of_exponent_lt (h : e < e') :
    UnpackedFloat.le (.finite .positive m e pos) (.finite .positive m' e' pos') = true := by
  rw [UnpackedFloat.le, UnpackedFloat.compare, Int.compare_eq_lt.mpr h]
  rfl

theorem unpackedLe_of_significand_le (h : m ≤ m') :
    UnpackedFloat.le (.finite .positive m e pos) (.finite .positive m' e pos') = true := by
  rw [UnpackedFloat.le, UnpackedFloat.compare, show compare e e = .eq from compare_eq_iff_eq.mpr rfl]
  rcases Nat.lt_or_eq_of_le h with less | rfl
  · rw [Nat.compare_eq_lt.mpr less]
    rfl
  · rw [show compare m m = .eq from compare_eq_iff_eq.mpr rfl]
    rfl

end Comparisons

/-- A double from one that is not too small up to another one lies between the powers of two around
them. -/
theorem between_of_le_of_le {z : Float} (least : Between a b x) (greatest : Between c d z)
    (small : -1021 ≤ a) (lower : x ≤ y) (upper : y ≤ z) : Between a d y := by
  obtain ⟨m, e, pos, hx, full, low, -⟩ := between_iff.mp least
  obtain ⟨m'', e'', pos'', hz, full'', -, high⟩ := between_iff.mp greatest
  have exponent : HasFormatExponent y.toModel.unpack := (pack_unpack y.toModel.valid).2
  have above : x.toModel.unpack.le y.toModel.unpack = true :=
    of_decide_eq_true (p := x.toModel ≤ y.toModel) lower
  have below : y.toModel.unpack.le z.toModel.unpack = true :=
    of_decide_eq_true (p := y.toModel ≤ z.toModel) upper
  rw [hx] at above
  rw [hz] at below
  rcases hy : y.toModel.unpack with s | _ | s | ⟨s, m', e', pos'⟩
  all_goals rw [hy] at above below exponent
  case infinity =>
    cases s
    · cases above
    · cases below
  case notANumber => cases above
  case zero => cases above
  case finite =>
    cases s
    · cases above
    · have first := exponent_le_of_le above
      have last := exponent_le_of_le below
      change Format.binary64.targetExponent (totalExponent m' e') = e' at exponent
      rw [targetExponent_binary64] at exponent
      exact between_iff.mpr ⟨m', e', pos', hy, by omega, by omega, by omega⟩

/-! ## Integers -/

/-- An integer of up to fifty-three bits is rounded to itself, with zeros behind its bits. -/
theorem round_natural {n : Nat} (positive : 0 < n) (few : n < 2 ^ 53) :
    ∃ pos, UnpackedFloat.round .binary64 .positive n 0 =
        .finite .positive (n * 2 ^ (52 - n.log2)) (n.log2 - 52) pos ∧
      (n * 2 ^ (52 - n.log2)).log2 = 52 := by
  have bits : n.log2 ≤ 52 := Nat.le_of_lt_succ ((Nat.log2_lt (Nat.ne_of_gt positive)).mpr few)
  have pos : 0 < n * 2 ^ (52 - n.log2) := Nat.mul_pos positive (Nat.two_pow_pos _)
  have full : (n * 2 ^ (52 - n.log2)).log2 = 52 := by
    rw [log2_mul_two_pow positive]
    omega
  have target : Format.binary64.targetExponent (totalExponent n 0) = (n.log2 : Int) - 52 := by
    rw [targetExponent_binary64]
    omega
  have shift : (0 - ((n.log2 : Int) - 52)).toNat = 52 - n.log2 := by omega
  have moved : (0 : Int) - (52 - n.log2 : Nat) = n.log2 - 52 := by omega
  have kept := roundWithAccuracy_of_trailing (s := .positive) 0 pos
    (targetExponent_normal full (show -1074 ≤ (n.log2 : Int) - 52 by omega))
  rw [Nat.pow_zero, Nat.mul_one, Int.natCast_zero, Int.sub_zero] at kept
  refine ⟨pos, ?_, full⟩
  rw [UnpackedFloat.round, decreaseExponent]
  simp only [target, shift, moved, Nat.shiftLeft_eq]
  exact kept

/-- The double of an integer of up to fifty-three bits is the integer, rounded once. -/
theorem ofInt_eq_pack {n : Nat} (positive : 0 < n) (few : n < 2 ^ 53) :
    Float.ofInt n =
      Float.ofModel (Float.Model.pack (UnpackedFloat.round .binary64 .positive n 0)) := by
  have same : n.toUInt64.toNat = n := Nat.mod_eq_of_lt (Nat.lt_trans few (by decide))
  have made : Float.ofInt n = n.toUInt64.toFloat := by
    change Float.ofScientific n false 0 = _
    rw [Float.ofScientific, dif_pos ⟨few, by decide⟩]
    exact mul_one _
  rw [made]
  change Float.ofModel (Float.Model.pack
    (UnpackedFloat.normalize .binary64 n.toUInt64.toNat 0 .positive)) = _
  rw [same, UnpackedFloat.normalize, Int.compare_eq_gt.mpr (Int.natCast_pos.mpr positive)]
  rfl

theorem unpack_ofInt {n : Nat} (positive : 0 < n) (few : n < 2 ^ 53) :
    ∃ pos, (Float.ofInt n).toModel.unpack =
      .finite .positive (n * 2 ^ (52 - n.log2)) (n.log2 - 52) pos := by
  obtain ⟨pos, rounded, full⟩ := round_natural positive few
  have bits : n.log2 ≤ 52 := Nat.le_of_lt_succ ((Nat.log2_lt (Nat.ne_of_gt positive)).mpr few)
  rw [ofInt_eq_pack positive few, rounded]
  exact ⟨pos, unpack_pack_full .positive pos full (by omega) (by omega)⟩

/-- The doubles of the integers from one to a thousand lie between `1e-6` and `1e3`. -/
theorem ofInt_mem {n : Nat} (positive : 1 ≤ n) (most : n ≤ 1000) :
    (1e-6 : Float) ≤ Float.ofInt n ∧ Float.ofInt n ≤ (1e3 : Float) := by
  have few : n < 2 ^ 53 := by omega
  obtain ⟨pos, hn⟩ := unpack_ofInt positive few
  constructor
  · obtain ⟨m, e, pos', least, -, -, small⟩ :=
      between_iff.mp (show Between (-20) (-19) 1e-6 by decide +kernel)
    have below : UnpackedFloat.le (1e-6 : Float).toModel.unpack (Float.ofInt n).toModel.unpack = true := by
      rw [least, hn]
      exact unpackedLe_of_exponent_lt (by omega)
    exact decide_eq_true below
  · have greatest : (1e3 : Float).toModel.unpack =
        .finite .positive (1000 * 2 ^ 43) (-43) (by decide) := rfl
    have above : UnpackedFloat.le (Float.ofInt n).toModel.unpack (1e3 : Float).toModel.unpack = true := by
      have bits : n.log2 < 10 := (Nat.log2_lt (by omega)).mpr (by omega)
      rw [greatest, hn]
      rcases Nat.lt_or_ge n.log2 9 with less | full
      · exact unpackedLe_of_exponent_lt (by omega)
      · have nine : n.log2 = 9 := by omega
        simp only [nine]
        exact unpackedLe_of_significand_le (Nat.mul_le_mul_right _ most)
    exact decide_eq_true above

end ParticleMomentum.Double
