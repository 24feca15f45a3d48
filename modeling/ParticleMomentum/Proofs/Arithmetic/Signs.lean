import ParticleMomentum.Proofs.Arithmetic.Positive
import ParticleMomentum.Setting.Number

/-!
# Doubles against zero

The parts by which a double is compared with an integer are those by which it is computed with. So a
double that is not at most zero is positive, or it is no number; the square of a zero is a zero; and the
double nearest to a positive integer is positive, however large the integer is.
-/

namespace ParticleMomentum

theorem Setting.Number.atMost_eq_false_iff {α : Type} [Arithmetic α] {x y : Number α} :
    x.atMost y = false ↔ x.compare? y = some .gt ∨ x.compare? y = none := by
  rw [atMost]
  rcases x.compare? y with _ | _ | _ | _ <;> simp

namespace Double

open Float.Model Float.Model.UnpackedFloat

/-! ## Parts -/

/-- What a double that was taken apart denotes. -/
def Parts.ofUnpacked : UnpackedFloat → Parts
  | .infinity s => .infinite (s == .negative)
  | .notANumber => .undefined
  | .zero s => .finite (s == .negative) 0 (-1074)
  | .finite s m e _ => .finite (s == .negative) m e

theorem toNat_unpackSign (b : BitVec 64) :
    (@unpackSign .binary64 b).toNat = b.toNat / Nat.pow 2 63 % 2 := by
  change (b.extractLsb' 63 1).toNat = _
  rw [BitVec.extractLsb'_toNat, Nat.shiftRight_eq_div_pow]

theorem toNat_unpackExponent (b : BitVec 64) :
    (@unpackExponent .binary64 b).toNat = b.toNat / Nat.pow 2 52 % Nat.pow 2 11 := by
  change (b.extractLsb' 52 11).toNat = _
  rw [BitVec.extractLsb'_toNat, Nat.shiftRight_eq_div_pow]

theorem toNat_unpackMantissa (b : BitVec 64) :
    (@unpackMantissa .binary64 b).toNat = b.toNat % Nat.pow 2 52 := by
  change (b.extractLsb' 0 52).toNat = _
  rw [BitVec.extractLsb'_toNat, Nat.shiftRight_zero]

theorem isNegative_ofBitVec (s : BitVec 1) :
    (s.toNat == 1) = (Sign.ofBitVec s == .negative) := by
  revert s
  decide

theorem toNat_beq {w : Nat} (v u : BitVec w) : ((v.toNat == u.toNat) = true) = (v = u) :=
  propext (beq_iff_eq.trans BitVec.toNat_inj)

/-- The parts of a double are those of the number that it is taken apart into. -/
theorem parts_eq (x : Float) : parts x = Parts.ofUnpacked x.toModel.unpack := by
  obtain ⟨⟨bits, valid⟩⟩ := x
  change Parts.ofBits bits.toBitVec.toNat =
    Parts.ofUnpacked (UnpackedFloat.unpack .binary64 bits.toBitVec)
  generalize bits.toBitVec = b
  have top := toNat_beq (@unpackExponent .binary64 b) (-1#11)
  have bottom := toNat_beq (@unpackExponent .binary64 b) 0#11
  have none := toNat_beq (@unpackMantissa .binary64 b) 0#52
  rw [Parts.ofBits, UnpackedFloat.unpack]
  simp only [← toNat_unpackSign, ← toNat_unpackExponent, ← toNat_unpackMantissa,
    isNegative_ofBitVec]
  change (if (_ == (-1#11).toNat) = true then if (_ == (0#52).toNat) = true then _ else _
    else if (_ == (0#11).toNat) = true then _ else _) = _
  simp only [top, bottom, none]
  split
  · split <;> rfl
  · split
    · next subnormal =>
      split
      · next zero => rw [zero]; rfl
      · rw [subnormal]; rfl
    · rw [Parts.ofUnpacked, toNat_implicit_append, Nat.add_comm]
      rfl

/-! ## Comparisons with zero -/

theorem compare_mul_zero (a : Int) {p : Int} (pos : 0 < p) : compare (a * p) 0 = compare a 0 := by
  rcases Int.lt_trichotomy a 0 with h | h | h
  · rw [Int.compare_eq_lt.mpr h, Int.compare_eq_lt.mpr (Int.mul_neg_of_neg_of_pos h pos)]
  · rw [h, Int.zero_mul]
  · rw [Int.compare_eq_gt.mpr h, Int.compare_eq_gt.mpr (Int.mul_pos h pos)]

/-- A finite double is compared with zero by its signed significand. -/
theorem compareInt?_zero_of_finite {x : Float} {negative : Bool} {m : Nat} {e : Int}
    (h : parts x = .finite negative m e) :
    compareInt? x 0 = some (compare (if negative then -(m : Int) else m) 0) := by
  rw [compareInt?, h]
  cases e with
  | ofNat e => exact congrArg some (compare_mul_zero _ (Int.natCast_pos.mpr (Nat.two_pow_pos e)))
  | negSucc e => exact congrArg (fun zero => some (compare _ zero)) (Int.zero_mul _)

/-- A double that is not at most zero is positive, or no number at all. -/
theorem zero_lt_or_isUndefined {x : Float}
    (h : (Setting.Number.real x).atMost (.whole 0) = false) :
    0.0 < x ∨ Arithmetic.isUndefined x = true := by
  have positive (less : UnpackedFloat.lt (.zero .positive) x.toModel.unpack = true) : 0.0 < x :=
    decide_eq_true less
  have apart := parts_eq x
  replace h : compareInt? x 0 = some .gt ∨ compareInt? x 0 = none :=
    Setting.Number.atMost_eq_false_iff.mp h
  rcases hu : x.toModel.unpack with s | _ | s | ⟨s, m, e, pos⟩
  all_goals rw [hu] at apart positive
  case infinity =>
    cases s
    · rw [compareInt?, apart] at h
      rcases h with h | h <;> cases h
    · exact .inl (positive rfl)
  case notANumber =>
    have incomparable : ¬ x ≤ x := by
      intro le
      have : x.toModel.unpack.le x.toModel.unpack = true :=
        of_decide_eq_true (p := x.toModel ≤ x.toModel) le
      rw [hu] at this
      cases this
    exact .inr (by simp [Arithmetic.isUndefined, Arithmetic.same, incomparable])
  case zero =>
    rw [compareInt?_zero_of_finite apart] at h
    cases s <;> rcases h with h | h <;> cases h
  case finite =>
    cases s
    · rw [compareInt?_zero_of_finite apart] at h
      have below : compare (-(m : Int)) 0 = .lt := Int.compare_eq_lt.mpr (by omega)
      simp only [BEq.rfl, if_true, below] at h
      rcases h with h | h <;> cases h
    · exact .inl (positive rfl)

theorem isUndefined_of_pos {x : Float} (hx : 0.0 < x) : Arithmetic.isUndefined x = false := by
  have positive := isPositive_unpack hx
  have self : x.toModel.unpack.le x.toModel.unpack = true := by
    generalize x.toModel.unpack = u at positive
    rcases u with s | _ | s | ⟨s, m, e, pos⟩
    · cases s <;> rfl
    · cases positive
    · cases positive
    · obtain ⟨rfl, -, -⟩ := positive
      simp [UnpackedFloat.le, UnpackedFloat.compare]
  have comparable : x ≤ x := decide_eq_true self
  simp [Arithmetic.isUndefined, Arithmetic.same, comparable]

/-- A double that equals zero is taken apart into a zero. -/
theorem unpack_of_isZero {x : Float} (h : Arithmetic.isZero x = true) :
    ∃ s, x.toModel.unpack = .zero s := by
  obtain ⟨upper, lower⟩ := Bool.and_eq_true_iff.mp h
  have below : x.toModel.unpack.le (.zero .positive) = true :=
    of_decide_eq_true (p := x.toModel ≤ (0.0 : Float).toModel) (of_decide_eq_true upper : x ≤ 0.0)
  have above : UnpackedFloat.le (.zero .positive) x.toModel.unpack = true :=
    of_decide_eq_true (p := (0.0 : Float).toModel ≤ x.toModel) (of_decide_eq_true lower : 0.0 ≤ x)
  rcases hu : x.toModel.unpack with s | _ | s | ⟨s, m, e, pos⟩
  all_goals rw [hu] at below above
  case zero => exact ⟨s, rfl⟩
  case infinity =>
    cases s
    · cases above
    · cases below
  case notANumber => cases below
  case finite =>
    cases s
    · cases above
    · cases below

/-- The square of a zero is a zero. The converse fails: squares of small doubles vanish. -/
theorem isZero_mul_self {x : Float} (h : Arithmetic.isZero x = true) :
    Arithmetic.isZero (x * x) = true := by
  obtain ⟨s, hs⟩ := unpack_of_isZero h
  have square : x * x = Float.ofModel (Float.Model.pack (.zero (s * s))) := by
    change Float.ofModel (Float.Model.pack
      (UnpackedFloat.mul .binary64 x.toModel.unpack x.toModel.unpack)) = _
    rw [hs]
    rfl
  rw [square]
  cases s <;> decide +kernel

/-! ## Doubles from integers -/

/-- A product with a positive integer, moved up by some places and down again, stays positive. -/
theorem isPositive_of_eq_mul {x y : UnpackedFloat} {k p : Nat} (pos : 0 < k)
    (large : 0 < k <<< p) (hx : IsPositive x)
    (h : y = UnpackedFloat.mul .binary64 (.finite .positive (k <<< p) (-p) large) x) : IsPositive y := by
  rw [h]
  refine isPositive_mul large ?_ hx
  rw [Nat.shiftLeft_eq, log2_mul_two_pow pos]
  omega

/-- Taking over a positive integer leaves it positive, however large it is. -/
theorem isPositive_ofScientific {k : Nat} (pos : 0 < k) :
    IsPositive (UnpackedFloat.ofScientific .binary64 k 0) := by
  have one (h : 0 < 10 ^ (0 : Int).toNat) : IsPositive (.finite .positive (10 ^ (0 : Int).toNat) 0 h) :=
    ⟨rfl, by decide, by decide⟩
  have few : ¬ (0 : Int) < -(2 ^ Format.binary64.exponentBits + (k.log2 : Int)) := by
    change ¬ (0 : Int) < -(2 ^ 11 + (k.log2 : Int))
    omega
  have large : 0 < k <<< Format.binary64.mantissaBits := by
    rw [Nat.shiftLeft_eq]
    exact Nat.mul_pos pos (Nat.two_pow_pos _)
  refine isPositive_of_eq_mul pos large (one (by decide)) ?_
  rw [UnpackedFloat.ofScientific, dif_neg (Nat.ne_of_gt pos), if_neg (by decide), if_neg few,
    if_pos (Int.le_refl 0)]

/-- The double nearest to a positive integer is positive. -/
theorem ofInt_pos {n : Int} (h : 0 < n) : 0.0 < Float.ofInt n := by
  obtain ⟨k, rfl⟩ := Int.eq_ofNat_of_zero_le h.le
  have pos : 0 < k := Int.natCast_pos.mp h
  change 0.0 < Float.ofScientific k false 0
  rw [Float.ofScientific]
  split
  · next small =>
    have same : k.toUInt64.toNat = k := Nat.mod_eq_of_lt (Nat.lt_trans small.1 (by decide))
    change 0.0 < k.toUInt64.toFloat * 1.0
    rw [mul_one]
    refine zero_lt_pack ?_
    change IsPositive (UnpackedFloat.normalize .binary64 k.toUInt64.toNat 0 .positive)
    rw [same, UnpackedFloat.normalize, Int.compare_eq_gt.mpr h]
    exact isPositive_round (by omega) (by decide)
  · exact zero_lt_pack (isPositive_ofScientific pos)

end Double

end ParticleMomentum
