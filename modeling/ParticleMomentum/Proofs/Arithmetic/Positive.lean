import ParticleMomentum.Proofs.Arithmetic.Double

/-!
# Positive doubles

Sums of positive doubles are positive, and so is three times a positive double. Rounding may lead to an
infinity, but never down to zero: a number that is not below the least positive double keeps a bit of its
significand. So a division by such a sum never meets a zero divisor, however large or small the terms
are.
-/

namespace ParticleMomentum.Double

open Float.Model Float.Model.UnpackedFloat

/-! ## Rounding -/

theorem shiftRight_mantissa (x : ExtendedMantissa) (k : Nat) :
    (x >>> k).mantissa = x.mantissa / 2 ^ k := by
  change (k.repeat ExtendedMantissa.shiftRightOne x).mantissa = _
  induction k with
  | zero => rw [Nat.repeat, Nat.pow_zero, Nat.div_one]
  | succ k ih =>
      rw [Nat.repeat, ExtendedMantissa.shiftRightOne, ih, Nat.div_div_eq_div_mul, Nat.pow_succ]

theorem le_roundedMantissa (x : ExtendedMantissa) : x.mantissa ≤ x.roundedMantissa := by
  obtain ⟨m, _ | _, _ | _⟩ := x
  · exact Nat.le_refl m
  · exact Nat.le_refl m
  · exact Nat.le_add_right m (m % 2)
  · exact Nat.le_succ m

theorem targetExponent_binary64 (m : Nat) (e : Int) :
    Format.binary64.targetExponent (totalExponent m e) = max ((m.log2 : Int) + e - 52) (-1074) := by
  change max ((m.log2 : Int) + 1 + e - (53 : Nat)) (3 - 2 ^ 10 - (53 : Nat)) = _
  omega

/-- A number that is at least the least positive double keeps, at its target exponent, a significand that
is not zero and fits into a double. -/
theorem shiftToTargetExponent_bounds {m : Nat} {e e' : Int} {x : ExtendedMantissa} (pos : 0 < m)
    (least : -1074 ≤ (m.log2 : Int) + e)
    (h : shiftToTargetExponent .binary64 m e .exact = (x, e')) :
    0 < x.mantissa ∧ x.mantissa < 2 ^ 53 ∧ -1074 ≤ e' := by
  obtain ⟨k, hk⟩ :
      ∃ k, k = (Format.binary64.targetExponent (totalExponent m e) - e).toNat := ⟨_, rfl⟩
  rw [shiftToTargetExponent, shiftToExponent, ← hk] at h
  cases h
  rw [targetExponent_binary64] at hk
  have kept : 2 ^ k ≤ m :=
    Nat.le_trans (Nat.pow_le_pow_right Nat.two_pos (by omega)) (Nat.log2_self_le (Nat.ne_of_gt pos))
  have few : m < 2 ^ k * 2 ^ 53 := by
    rw [← Nat.pow_add]
    exact Nat.lt_of_lt_of_le Nat.lt_log2_self (Nat.pow_le_pow_right Nat.two_pos (by omega))
  rw [shiftRight_mantissa]
  exact ⟨Nat.div_pos kept (Nat.two_pow_pos k), Nat.div_lt_of_lt_mul few, by omega⟩

theorem decreaseExponent_pos {m : Nat} (pos : 0 < m) (e target : Int) :
    0 < (decreaseExponent m e target).1 := by
  rw [decreaseExponent, Nat.shiftLeft_eq]
  exact Nat.mul_pos pos (Nat.two_pow_pos _)

/-! ## Positive numbers -/

/-- A positive number: an infinity, or a significand and an exponent that fit into a double. -/
def IsPositive : UnpackedFloat → Prop
  | .infinity s => s = .positive
  | .finite s m e _ => s = .positive ∧ m < 2 ^ 53 ∧ -1074 ≤ e
  | _ => False

/-- Rounding a number that is at least the least positive double leaves it positive. -/
theorem isPositive_roundWithAccuracy {m : Nat} {e : Int} (pos : 0 < m)
    (least : -1074 ≤ (m.log2 : Int) + e) :
    IsPositive (roundWithAccuracy .binary64 .positive m e .exact) := by
  rcases first : shiftToTargetExponent .binary64 m e .exact with ⟨x, e₁⟩
  rcases last : shiftToTargetExponent .binary64 x.roundedMantissa e₁ .exact with ⟨y, e₂⟩
  obtain ⟨firstPos, -, firstLeast⟩ := shiftToTargetExponent_bounds pos least first
  have roundedPos : 0 < x.roundedMantissa := Nat.lt_of_lt_of_le firstPos (le_roundedMantissa x)
  obtain ⟨lastPos, lastSmall, lastLeast⟩ :=
    shiftToTargetExponent_bounds roundedPos (by omega) last
  simp only [roundWithAccuracy, first, last, dif_neg (Nat.ne_of_gt lastPos)]
  exact ⟨rfl, lastSmall, lastLeast⟩

theorem isPositive_round {m : Nat} {e : Int} (pos : 0 < m) (least : -1074 ≤ e) :
    IsPositive (round .binary64 .positive m e) := by
  refine isPositive_roundWithAccuracy (decreaseExponent_pos pos _ _) ?_
  rw [targetExponent_binary64]
  omega

theorem isPositive_add {x y : UnpackedFloat} (hx : IsPositive x) (hy : IsPositive y) :
    IsPositive (UnpackedFloat.add .binary64 x y) := by
  rcases x with s | _ | s | ⟨s, m, e, pos⟩
  case notANumber | zero => exact hx.elim
  all_goals rcases y with s' | _ | s' | ⟨s', m', e', pos'⟩
  case infinity.notANumber | infinity.zero | finite.notANumber | finite.zero => exact hy.elim
  case infinity.infinity =>
    cases show s = .positive from hx
    cases show s' = .positive from hy
    exact rfl
  case infinity.finite => exact hx
  case finite.infinity => exact hy
  case finite.finite =>
    obtain ⟨rfl, -, least⟩ := hx
    obtain ⟨rfl, -, least'⟩ := hy
    have first := decreaseExponent_pos pos e (min e e')
    have second := decreaseExponent_pos pos' e' (min e e')
    have sum : (0 : Int) <
        (decreaseExponent m e (min e e')).1 + (decreaseExponent m' e' (min e e')).1 := by omega
    change IsPositive (UnpackedFloat.normalize .binary64
      ((decreaseExponent m e (min e e')).1 + (decreaseExponent m' e' (min e e')).1) _ _)
    rw [UnpackedFloat.normalize, Int.compare_eq_gt.mpr sum]
    exact isPositive_round (by omega) (by omega)

/-- A product with a factor that is not below one stays positive. -/
theorem isPositive_mul {x : UnpackedFloat} {m : Nat} {e : Int} (pos : 0 < m)
    (atLeastOne : 0 ≤ (m.log2 : Int) + e) (hx : IsPositive x) :
    IsPositive (UnpackedFloat.mul .binary64 (.finite .positive m e pos) x) := by
  rcases x with s | _ | s | ⟨s, m', e', pos'⟩
  case notANumber | zero => exact hx.elim
  case infinity =>
    cases show s = .positive from hx
    exact rfl
  case finite =>
    obtain ⟨rfl, -, least⟩ := hx
    have larger : 2 ^ (m.log2 + m'.log2) ≤ m * m' := by
      rw [Nat.pow_add]
      exact Nat.mul_le_mul (Nat.log2_self_le (Nat.ne_of_gt pos))
        (Nat.log2_self_le (Nat.ne_of_gt pos'))
    have places : m.log2 + m'.log2 ≤ (m * m').log2 :=
      (Nat.le_log2 (Nat.ne_of_gt (Nat.mul_pos pos pos'))).mpr larger
    exact isPositive_roundWithAccuracy (Nat.mul_pos pos pos') (by omega)

/-! ## Positive doubles -/

theorem unpackSign_packComponents (s : Sign) (exponent : BitVec 11) (fraction : BitVec 52) :
    Sign.ofBitVec (@unpackSign .binary64 (packComponents .binary64 s exponent fraction)) = s := by
  have bit : @unpackSign .binary64 (packComponents .binary64 s exponent fraction) = s.toBitVec := by
    change (s.toBitVec ++ exponent ++ fraction).extractLsb' 63 1 = _
    rw [BitVec.extractLsb'_append_eq_of_le (by decide)]
    exact BitVec.extractLsb'_append_eq_left
  rw [bit]
  cases s <;> rfl

/-- Bits without a sign are a positive number, unless they are those of zero or of no number. -/
theorem zero_lt_unpack {exponent : BitVec 11} {fraction : BitVec 52}
    (isNumber : exponent = -1#11 → fraction = 0#52) (nonzero : exponent = 0#11 → fraction ≠ 0#52) :
    UnpackedFloat.lt (.zero .positive)
      (UnpackedFloat.unpack .binary64 (packComponents .binary64 .positive exponent fraction)) =
        true := by
  have sign := unpackSign_packComponents .positive exponent fraction
  rw [UnpackedFloat.unpack]
  simp only [unpackExponent_packComponents, unpackMantissa_packComponents, sign]
  split
  · next infinite =>
    rw [if_pos (isNumber infinite)]
    rfl
  · split
    · next subnormal =>
      rw [dif_neg (nonzero subnormal)]
      rfl
    · rfl

/-- The significand and the exponent of a double fit into a double. -/
theorem bounds_of_hasFormatExponent {s : Sign} {m : Nat} {e : Int} {pos : 0 < m}
    (h : HasFormatExponent (.finite s m e pos)) : m < 2 ^ 53 ∧ -1074 ≤ e := by
  change Format.binary64.targetExponent (totalExponent m e) = e at h
  rw [targetExponent_binary64] at h
  exact ⟨(Nat.log2_lt (Nat.ne_of_gt pos)).mp (by omega), by omega⟩

theorem isPositive_unpack {x : Float} (h : 0.0 < x) : IsPositive x.toModel.unpack := by
  have exponent : HasFormatExponent x.toModel.unpack := (pack_unpack x.toModel.valid).2
  have less : UnpackedFloat.lt (.zero .positive) x.toModel.unpack = true :=
    of_decide_eq_true (p := (0.0 : Float).toModel < x.toModel) h
  generalize x.toModel.unpack = u at exponent less
  rcases u with s | _ | s | ⟨s, m, e, pos⟩
  · cases s
    · cases less
    · rfl
  · cases less
  · cases less
  · cases s
    · cases less
    · exact ⟨rfl, bounds_of_hasFormatExponent exponent⟩

/-- A positive number is packed into a positive double. -/
theorem zero_lt_pack {x : UnpackedFloat} (h : IsPositive x) :
    0.0 < Float.ofModel (Float.Model.pack x) := by
  apply decide_eq_true
  change UnpackedFloat.lt (.zero .positive)
    (UnpackedFloat.unpack .binary64 (UnpackedFloat.pack .binary64 x)) = true
  rcases x with s | _ | s | ⟨s, m, e, pos⟩
  · cases show s = .positive from h
    exact zero_lt_unpack (fun _ => rfl) (fun h => absurd h (by decide))
  · exact h.elim
  · exact h.elim
  · obtain ⟨rfl, small, least⟩ := h
    obtain ⟨biased, hb⟩ :
        ∃ biased, (e + Format.binary64.exponentBias + 52).toNat = biased := ⟨_, rfl⟩
    change UnpackedFloat.lt _ (UnpackedFloat.unpack .binary64
      (if 2 ^ 11 ≤ (e + Format.binary64.exponentBias + 52).toNat + 1 then packedInfinity _ _
        else if m.log2 + 1 = 53 then packComponents .binary64 .positive
          (BitVec.ofNat 11 (e + Format.binary64.exponentBias + 52).toNat) (BitVec.ofNat 52 m)
        else packComponents .binary64 .positive 0#11 (BitVec.ofNat 52 m))) = true
    rw [hb]
    split
    · exact zero_lt_unpack (fun _ => rfl) (fun h => absurd h (by decide))
    split
    · -- the exponent of a normal number is neither the least nor the greatest
      have above : 0 < biased := by
        change (e + (1023 : Nat) + 52).toNat = biased at hb
        omega
      exact zero_lt_unpack (fun h => by bv_omega) (fun h => by bv_omega)
    · have few : m.log2 < 53 := (Nat.log2_lt (Nat.ne_of_gt pos)).mpr small
      have fits : m < 2 ^ 52 := (Nat.log2_lt (Nat.ne_of_gt pos)).mp (by omega)
      exact zero_lt_unpack (fun h => absurd h (by decide)) (fun _ h => by bv_omega)

theorem add_pos {x y : Float} (hx : 0.0 < x) (hy : 0.0 < y) : 0.0 < x + y :=
  zero_lt_pack (isPositive_add (isPositive_unpack hx) (isPositive_unpack hy))

theorem three_mul_pos {x : Float} (hx : 0.0 < x) : 0.0 < 3.0 * x := by
  have three : (3.0 : Float).toModel.unpack =
      .finite .positive (3 * 2 ^ 51) (-51) (by decide) := rfl
  have places : (3 * 2 ^ 51).log2 = 52 := by
    rw [Nat.log2_eq_iff (by decide)]
    decide
  have product := isPositive_mul (show 0 < 3 * 2 ^ 51 by decide)
    (show 0 ≤ ((3 * 2 ^ 51).log2 : Int) + -51 by omega) (isPositive_unpack hx)
  rw [← three] at product
  exact zero_lt_pack product

/-- A positive double is not zero. -/
theorem isZero_of_pos {x : Float} (hx : 0.0 < x) : Arithmetic.isZero x = false := by
  have positive := isPositive_unpack hx
  have above : ¬ x ≤ 0.0 := by
    intro h
    have atMost : x.toModel.unpack.le (.zero .positive) = true :=
      of_decide_eq_true (p := x.toModel ≤ (0.0 : Float).toModel) h
    generalize x.toModel.unpack = u at positive atMost
    rcases u with s | _ | s | ⟨s, m, e, pos⟩
    · cases show s = .positive from positive
      cases atMost
    · exact positive
    · exact positive
    · obtain ⟨rfl, -⟩ := positive
      cases atMost
  rw [Arithmetic.isZero, Arithmetic.same, Bool.and_eq_false_iff]
  exact .inl (decide_eq_false above)

end ParticleMomentum.Double
