import Mathlib
import ParticleMomentum.Arithmetic.Double

/-!
# A law of doubles

A double times one is the double itself, bit for bit, whether it is finite, infinite or undefined. No
rounding takes place: the product with one has its significand moved up by fifty-two places, and
bringing it back to its exponent drops only zeros. This is the one law of double arithmetic that
refining the fused pair loop to the stepwise one asks for.
-/

namespace ParticleMomentum.Double

open Float.Model Float.Model.UnpackedFloat

/-! ## Taking a double apart -/

/-- The bits of a double are its sign, its exponent and its fraction. -/
theorem packComponents_of_unpacked (b : BitVec 64) :
    packComponents .binary64 (Sign.ofBitVec (@unpackSign .binary64 b))
      (@unpackExponent .binary64 b) (@unpackMantissa .binary64 b) = b := by
  have sign : ∀ v : BitVec 1, (Sign.ofBitVec v).toBitVec = v := by decide
  change ((Sign.ofBitVec _).toBitVec ++ _ ++ _ : BitVec (1 + 11 + 52)) = _
  rw [sign]
  change (b.extractLsb' 63 1 ++ b.extractLsb' 52 11 ++ b.extractLsb' 0 52 : BitVec (1 + 11 + 52)) = b
  rw [BitVec.extractLsb'_append_extractLsb'_eq_extractLsb' (show 63 = 52 + 11 from rfl),
    BitVec.extractLsb'_append_extractLsb'_eq_extractLsb' (show 52 = 0 + 52 from rfl)]
  exact BitVec.extractLsb'_eq_self

theorem toNat_implicit_append (fraction : BitVec 52) :
    (1#1 ++ fraction).toNat = 2 ^ 52 + fraction.toNat := by
  have h := Nat.shiftLeft_add_eq_or_of_lt fraction.isLt 1
  rw [BitVec.toNat_append]
  change 1 <<< 52 ||| fraction.toNat = _
  rw [← h, Nat.shiftLeft_eq, Nat.one_mul]

theorem log2_implicit_append (fraction : BitVec 52) : (1#1 ++ fraction).toNat.log2 = 52 := by
  have h := fraction.isLt
  rw [Nat.log2_eq_iff (by rw [toNat_implicit_append]; omega), toNat_implicit_append]
  omega

theorem pack_subnormal (s : Sign) (fraction : BitVec 52) (pos : 0 < fraction.toNat) :
    UnpackedFloat.pack .binary64 (.finite s fraction.toNat (-1074) pos) =
      packComponents .binary64 s 0#11 fraction := by
  have small : fraction.toNat.log2 < 52 := (Nat.log2_lt (Nat.ne_of_gt pos)).mpr fraction.isLt
  rw [UnpackedFloat.pack, if_neg (by decide), if_neg (by change ¬ fraction.toNat.log2 + 1 = 53; omega)]
  exact congrArg _ (BitVec.ofNat_toNat _ _)

theorem pack_normal (s : Sign) (fraction : BitVec 52) (exponent : BitVec 11)
    (pos : 0 < (1#1 ++ fraction).toNat) (finite : exponent ≠ -1#11) :
    UnpackedFloat.pack .binary64 (.finite s (1#1 ++ fraction).toNat (exponent.toNat - 1075) pos) =
      packComponents .binary64 s exponent fraction := by
  have inRange : exponent.toNat < 2047 := by bv_omega
  have biased : ((exponent.toNat - 1075 : Int) + Format.binary64.exponentBias + 52).toNat =
      exponent.toNat := by
    change ((exponent.toNat - 1075 : Int) + (1023 : Nat) + 52).toNat = exponent.toNat
    omega
  have notInfinite : ¬ 2 ^ 11 ≤ exponent.toNat + 1 := by omega
  have dropped : BitVec.ofNat 52 (1#1 ++ fraction).toNat = fraction := by
    apply BitVec.eq_of_toNat_eq
    rw [BitVec.toNat_ofNat, toNat_implicit_append, Nat.add_mod_left, Nat.mod_eq_of_lt fraction.isLt]
  simp only [UnpackedFloat.pack]
  change (if 2 ^ 11 ≤ ((exponent.toNat - 1075 : Int) + Format.binary64.exponentBias + 52).toNat + 1
    then _ else if (1#1 ++ fraction).toNat.log2 + 1 = 53 then
      packComponents .binary64 s (BitVec.ofNat 11
        ((exponent.toNat - 1075 : Int) + Format.binary64.exponentBias + 52).toNat)
        (BitVec.ofNat 52 (1#1 ++ fraction).toNat) else _) = _
  rw [biased, if_neg notInfinite, if_pos (by rw [log2_implicit_append]), dropped,
    BitVec.ofNat_toNat, BitVec.setWidth_eq]

/-- The exponent of a finite number is the one that the format gives to its significand. -/
def HasFormatExponent : UnpackedFloat → Prop
  | .finite _ m e _ => Format.binary64.targetExponent (totalExponent m e) = e
  | _ => True

theorem targetExponent_subnormal {m : Nat} (pos : 0 < m) (small : m < 2 ^ 52) :
    Format.binary64.targetExponent (totalExponent m (-1074)) = -1074 := by
  have h : m.log2 < 52 := (Nat.log2_lt (Nat.ne_of_gt pos)).mpr small
  change max ((m.log2 : Int) + 1 + -1074 - (53 : Nat)) (3 - 2 ^ 10 - (53 : Nat)) = -1074
  omega

theorem targetExponent_normal {m : Nat} {e : Int} (full : m.log2 = 52) (least : -1074 ≤ e) :
    Format.binary64.targetExponent (totalExponent m e) = e := by
  change max ((m.log2 : Int) + 1 + e - (53 : Nat)) (3 - 2 ^ 10 - (53 : Nat)) = e
  omega

/-- Putting a double together again after taking it apart gives it back, and its exponent is that of the
format. -/
theorem pack_unpack {b : BitVec 64} (valid : Format.binary64.Valid b) :
    UnpackedFloat.pack .binary64 (UnpackedFloat.unpack .binary64 b) = b ∧
      HasFormatExponent (UnpackedFloat.unpack .binary64 b) := by
  have whole := packComponents_of_unpacked b
  have isNaN := valid.eq_packedNaN
  rw [UnpackedFloat.unpack]
  dsimp only
  split
  · next he =>
    split
    · next hm =>
      rw [he, hm] at whole
      exact ⟨whole, trivial⟩
    · next hm => exact ⟨(isNaN he hm).symm, trivial⟩
  · next he =>
    split
    · next hz =>
      rw [hz] at whole ⊢
      split
      · next hm =>
        rw [hm] at whole
        exact ⟨whole, trivial⟩
      · next hm =>
        have pos : 0 < (@unpackMantissa .binary64 b).toNat := by
          simpa [BitVec.toNat_pos, BitVec.pos_iff_ne_zero] using hm
        exact ⟨(pack_subnormal _ _ pos).trans whole, targetExponent_subnormal pos (BitVec.isLt _)⟩
    · next hz =>
      have least : (@unpackExponent .binary64 b).toNat ≠ 0 := fun h => hz (BitVec.eq_of_toNat_eq h)
      refine ⟨(pack_normal _ _ _ _ he).trans whole,
        targetExponent_normal (log2_implicit_append _) ?_⟩
      change -1074 ≤ ((@unpackExponent .binary64 b).toNat : Int) - (1023 + 52 : Nat)
      omega

/-! ## Rounding back -/

theorem shiftRight_of_trailing (k m : Nat) :
    (⟨m * 2 ^ k, false, false⟩ : ExtendedMantissa) >>> k = ⟨m, false, false⟩ := by
  change k.repeat ExtendedMantissa.shiftRightOne _ = _
  induction k generalizing m with
  | zero => rw [Nat.repeat, Nat.pow_zero, Nat.mul_one]
  | succ k ih =>
      have h : m * 2 ^ (k + 1) = 2 * m * 2 ^ k := by rw [Nat.pow_succ]; ac_rfl
      rw [Nat.repeat, h, ih (2 * m)]
      simp [ExtendedMantissa.shiftRightOne]

theorem log2_mul_two_pow {m : Nat} (pos : 0 < m) (k : Nat) : (m * 2 ^ k).log2 = m.log2 + k := by
  induction k with
  | zero => rw [Nat.pow_zero, Nat.mul_one, Nat.add_zero]
  | succ k ih =>
      have h : m * 2 ^ (k + 1) = 2 * (m * 2 ^ k) := by rw [Nat.pow_succ]; ac_rfl
      rw [h, Nat.log2_two_mul (Nat.ne_of_gt (Nat.mul_pos pos (Nat.two_pow_pos k))), ih, Nat.add_assoc]

/-- A number whose significand ends in zeros is rounded by dropping as many of them as its exponent
asks for. -/
theorem roundWithAccuracy_of_trailing {s : Sign} {m : Nat} {e : Int} (k : Nat) (pos : 0 < m)
    (exponent : Format.binary64.targetExponent (totalExponent m e) = e) :
    roundWithAccuracy .binary64 s (m * 2 ^ k) (e - k) .exact = .finite s m e pos := by
  have same : totalExponent (m * 2 ^ k) (e - k) = totalExponent m e := by
    rw [totalExponent, totalExponent, log2_mul_two_pow pos]
    omega
  have first :
      shiftToTargetExponent .binary64 (m * 2 ^ k) (e - k) .exact = (⟨m, false, false⟩, e) := by
    have amount : (e - (e - k)).toNat = k := by omega
    rw [shiftToTargetExponent, same, exponent, shiftToExponent, amount]
    exact Prod.ext (shiftRight_of_trailing k m) (by omega)
  have second : shiftToTargetExponent .binary64 m e .exact = (⟨m, false, false⟩, e) := by
    have amount : (e - e).toNat = 0 := by omega
    rw [shiftToTargetExponent, exponent, shiftToExponent, amount]
    exact Prod.ext rfl (by omega)
  rw [roundWithAccuracy, first]
  simp only [ExtendedMantissa.roundedMantissa, ExtendedMantissa.accuracy, Accuracy.roundToNearestEven,
    second, dif_neg (Nat.ne_of_gt pos)]

/-- Doubles put together again are the doubles taken apart. -/
theorem pack_unpack_model (x : Float.Model) : Float.Model.pack x.unpack = x := by
  obtain ⟨b, valid⟩ := x
  rw [Float.Model.pack, Float.Model.mk.injEq]
  exact UInt64.toBitVec_inj.mp (pack_unpack valid).1

/-- Multiplying by one changes nothing before packing. -/
theorem unpacked_mul_one {x : UnpackedFloat} (exponent : HasFormatExponent x)
    (pos : 0 < 2 ^ 52) :
    UnpackedFloat.mul .binary64 x (.finite .positive (2 ^ 52) (-52) pos) = x := by
  have sign : ∀ s : Sign, s * .positive = s := fun s => by cases s <;> rfl
  rcases x with s | _ | s | ⟨s, m, e, mantissaPos⟩
  · exact congrArg _ (sign s)
  · rfl
  · exact congrArg _ (sign s)
  · rw [UnpackedFloat.mul, sign]
    exact roundWithAccuracy_of_trailing 52 mantissaPos exponent

/-- A double times one is the double itself. -/
theorem mul_one (x : Float) : x * 1.0 = x := by
  have one : (1.0 : Float).toModel.unpack =
      .finite .positive (2 ^ 52) (-52) (Nat.two_pow_pos 52) := rfl
  have product := unpacked_mul_one (pack_unpack x.toModel.valid).2 (Nat.two_pow_pos 52)
  change Float.ofModel (Float.Model.pack
    (UnpackedFloat.mul .binary64 x.toModel.unpack (1.0 : Float).toModel.unpack)) = x
  rw [one]
  exact congrArg Float.ofModel
    ((congrArg Float.Model.pack product).trans (pack_unpack_model x.toModel))

end ParticleMomentum.Double
