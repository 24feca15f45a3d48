import ParticleMomentum.Proofs.Arithmetic.Magnitude

/-!
# Powers of doubles

The power function of doubles comes from outside, and how it rounds is not fixed. All that is relied on
is that its results are not off by more than a factor of two where the exact power is far from the ends
of the range. `Doubles power` are the doubles with a power function put in; rounding the exact power is
one that can be relied on.
-/

namespace ParticleMomentum

/-- Doubles that are raised to powers by a given function. -/
def Doubles (_power : Float → Nat → Float) : Type := Float

instance (power : Float → Nat → Float) : Arithmetic (Doubles power) :=
  { (inferInstance : Arithmetic Float) with power }

/-- The doubles themselves have the power function of their own. -/
example : (inferInstance : Arithmetic (Doubles fun x k => x.pow (Float.ofNat k))) =
    (inferInstance : Arithmetic Float) := rfl

namespace Double

open Float.Model Float.Model.UnpackedFloat

/-- The powers of positive doubles are right up to a factor of two, if the exact power is far from the
least and the greatest doubles. -/
def FaithfulPower (power : Float → Nat → Float) : Prop :=
  ∀ (x : Float) (k m : Nat) (e : Int), parts x = .finite false m e → 0 < m →
    (2 : ℚ) ^ (-1000 : Int) ≤ (m * 2 ^ e) ^ k → (m * (2 : ℚ) ^ e) ^ k ≤ 2 ^ (1000 : Int) →
    ∃ (n : Nat) (f : Int), parts (power x k) = .finite false n f ∧
      (m * (2 : ℚ) ^ e) ^ k / 2 ≤ n * 2 ^ f ∧ n * (2 : ℚ) ^ f ≤ 2 * (m * 2 ^ e) ^ k

/-! ## Values -/

/-- A number is at least the power of two that its significand and its exponent make. -/
theorem two_pow_le_value {m : Nat} (positive : 0 < m) (e : Int) :
    (2 : ℚ) ^ (m.log2 + e) ≤ m * 2 ^ e := by
  have least : ((2 ^ m.log2 : Nat) : ℚ) ≤ m := Nat.cast_le.mpr (Nat.log2_self_le positive.ne')
  rw [zpow_add₀ two_ne_zero, zpow_natCast]
  exact mul_le_mul_of_nonneg_right (by exact_mod_cast least) (zpow_nonneg two_pos.le e)

/-- A number is less than the next power of two. -/
theorem value_lt_two_pow (m : Nat) (e : Int) : m * (2 : ℚ) ^ e < 2 ^ (m.log2 + e + 1) := by
  have most : (m : ℚ) < ((2 ^ (m.log2 + 1) : Nat) : ℚ) := Nat.cast_lt.mpr Nat.lt_log2_self
  have split : (2 : ℚ) ^ (m.log2 + e + 1) = 2 ^ (m.log2 + 1) * 2 ^ e := by
    rw [show (m.log2 : Int) + e + 1 = ((m.log2 + 1 : Nat) : Int) + e by push_cast; ring,
      zpow_add₀ two_ne_zero, zpow_natCast]
  rw [split]
  exact mul_lt_mul_of_pos_right (by exact_mod_cast most) (zpow_pos two_pos e)

theorem exponent_lt_of_two_pow_lt {a b : Int} (h : (2 : ℚ) ^ a < 2 ^ b) : a < b :=
  (zpow_lt_zpow_iff_right₀ one_lt_two).mp h

theorem exponent_le_of_two_pow_le {a b : Int} (h : (2 : ℚ) ^ a ≤ 2 ^ b) : a ≤ b :=
  (zpow_le_zpow_iff_right₀ one_lt_two).mp h

/-! ## Powers between powers of two -/

/-- A positive double whose value is known to lie between powers of two. -/
theorem between_of_parts {y : Float} {n : Nat} {f a b : Int} (apart : parts y = .finite false n f)
    (least : (2 : ℚ) ^ a ≤ n * 2 ^ f) (most : n * (2 : ℚ) ^ f < 2 ^ b) (small : -1021 ≤ a) :
    Between a b y := by
  have exponent : HasFormatExponent y.toModel.unpack := (pack_unpack y.toModel.valid).2
  rw [parts_eq] at apart
  rcases hy : y.toModel.unpack with s | _ | s | ⟨s, m, e, pos⟩
  all_goals rw [hy] at apart exponent
  case infinity | notANumber => cases apart
  case zero =>
    obtain ⟨-, rfl, -⟩ := Parts.finite.inj apart
    rw [Nat.cast_zero, zero_mul] at least
    exact absurd least (zpow_pos two_pos a).not_ge
  case finite =>
    obtain ⟨positive, rfl, rfl⟩ := Parts.finite.inj apart
    cases s
    · cases positive
    have lower := exponent_lt_of_two_pow_lt (least.trans_lt (value_lt_two_pow m e))
    have upper := exponent_lt_of_two_pow_lt ((two_pow_le_value pos e).trans_lt most)
    change Format.binary64.targetExponent (totalExponent m e) = e at exponent
    rw [targetExponent_binary64] at exponent
    exact between_iff.mpr ⟨m, e, pos, hy, by omega, by omega, by omega⟩

variable {power : Float → Nat → Float} {x : Float} {a b : Int}

/-- A power that is right up to a factor of two lies between the powers of the bounds, up to a place. -/
theorem between_power (faithful : FaithfulPower power) (hx : Between a b x) (k : Nat)
    (least : -1000 ≤ k * a) (most : k * b ≤ 1000) :
    Between (k * a - 1) (k * b + 2) (power x k) := by
  obtain ⟨m, e, pos, apart, full, lower, upper⟩ := between_iff.mp hx
  have parted : parts x = .finite false m e := by
    rw [parts_eq, apart]
    rfl
  have below : (2 : ℚ) ^ a ≤ m * 2 ^ e :=
    (zpow_le_zpow_right₀ one_le_two (by omega)).trans (two_pow_le_value pos e)
  have above : m * (2 : ℚ) ^ e ≤ 2 ^ b :=
    (value_lt_two_pow m e).le.trans (zpow_le_zpow_right₀ one_le_two (by omega))
  have powBelow : (2 : ℚ) ^ (k * a) ≤ (m * 2 ^ e) ^ k := by
    rw [mul_comm, zpow_mul, zpow_natCast]
    exact pow_le_pow_left₀ (zpow_nonneg two_pos.le a) below k
  have powAbove : (m * (2 : ℚ) ^ e) ^ k ≤ 2 ^ (k * b) := by
    rw [mul_comm (k : Int), zpow_mul, zpow_natCast]
    exact pow_le_pow_left₀ (mul_nonneg m.cast_nonneg (zpow_nonneg two_pos.le e)) above k
  obtain ⟨n, f, raised, half, twice⟩ := faithful x k m e parted pos
    ((zpow_le_zpow_right₀ one_le_two least).trans powBelow)
    (powAbove.trans (zpow_le_zpow_right₀ one_le_two most))
  refine between_of_parts raised ?_ ?_ (by omega)
  · rw [zpow_sub_one₀ two_ne_zero, ← div_eq_mul_inv]
    exact (div_le_div_of_nonneg_right powBelow two_pos.le).trans half
  · refine twice.trans_lt ?_
    have next : (2 : ℚ) ^ (k * b + 2) = 2 * (2 * 2 ^ (k * b)) := by
      rw [zpow_add₀ two_ne_zero]
      ring
    have positive : (0 : ℚ) < 2 ^ (k * b) := zpow_pos two_pos _
    rw [next]
    linarith

/-! ## The rounded power -/

/-- Rounding is right up to a factor of two, unless the number is very small. -/
theorem round_value (s : Sign) {m : Nat} {e : Int} (positive : 0 < m)
    (least : -1074 ≤ m.log2 + e - 52) :
    ∃ n f pos, UnpackedFloat.round .binary64 s m e = .finite s n f pos ∧ n.log2 = 52 ∧
      m.log2 + e ≤ f + 52 ∧ f + 52 ≤ m.log2 + e + 1 ∧
      m * (2 : ℚ) ^ e / 2 ≤ n * 2 ^ f ∧ n * (2 : ℚ) ^ f ≤ 2 * (m * 2 ^ e) := by
  obtain ⟨n, f, pos, rounded, full, place⟩ := round_full s positive least
  refine ⟨n, f, pos, rounded, full, by omega, by omega, ?_, ?_⟩
  · have below := value_lt_two_pow m e
    have reached : (2 : ℚ) ^ (m.log2 + e) ≤ n * 2 ^ f :=
      (zpow_le_zpow_right₀ one_le_two (by omega)).trans (two_pow_le_value pos f)
    rw [zpow_add_one₀ two_ne_zero] at below
    linarith
  · have above := two_pow_le_value positive e
    have twice : (2 : ℚ) ^ (m.log2 + e + 1) = 2 ^ (m.log2 + e) * 2 := zpow_add_one₀ two_ne_zero _
    rcases place with same | ⟨next, carried⟩
    · have kept := value_lt_two_pow n f
      rw [show (n.log2 : Int) + f + 1 = m.log2 + e + 1 by omega, twice] at kept
      linarith
    · have power : (n : ℚ) * 2 ^ f = 2 ^ (m.log2 + e + 1) := by
        rw [carried, ← next, add_comm f, zpow_add₀ two_ne_zero, Nat.cast_pow]
        norm_num
      rw [power, twice]
      linarith

/-- The double next to the exact power. Infinities, zeros and what is no number are their own powers. -/
def roundedPower (x : Float) (k : Nat) : Float :=
  match x.toModel.unpack with
  | .finite s m e _ =>
    Float.ofModel (Float.Model.pack
      (UnpackedFloat.round .binary64 (if k % 2 = 0 then .positive else s) (m ^ k) (k * e)))
  | _ => x

theorem faithful_roundedPower : FaithfulPower roundedPower := by
  intro x k m e apart positive least most
  rw [parts_eq] at apart
  rcases hx : x.toModel.unpack with s | _ | s | ⟨s, m', e', pos⟩
  all_goals rw [hx] at apart
  case infinity | notANumber => cases apart
  case zero =>
    obtain ⟨-, rfl, -⟩ := Parts.finite.inj apart
    exact absurd positive (Nat.lt_irrefl 0)
  case finite =>
    obtain ⟨sign, rfl, rfl⟩ := Parts.finite.inj apart
    cases s
    · cases sign
    have value : (m' * (2 : ℚ) ^ e') ^ k = ((m' ^ k : Nat) : ℚ) * 2 ^ (k * e') := by
      rw [mul_pow, Nat.cast_pow, mul_comm (k : Int), zpow_mul, zpow_natCast]
    have powered : 0 < m' ^ k := Nat.pow_pos pos
    rw [value] at least most ⊢
    have lower := exponent_lt_of_two_pow_lt (least.trans_lt (value_lt_two_pow _ _))
    have upper := exponent_le_of_two_pow_le ((two_pow_le_value powered _).trans most)
    obtain ⟨n, f, pos', rounded, full, low, high, half, twice⟩ :=
      round_value .positive powered (show -1074 ≤ ((m' ^ k).log2 : Int) + k * e' - 52 by omega)
    have raised : (roundedPower x k).toModel.unpack = .finite .positive n f pos' := by
      rw [roundedPower, hx]
      simp only [ite_self]
      rw [rounded]
      exact unpack_pack_full .positive pos' full (by omega) (by omega)
    exact ⟨n, f, by rw [parts_eq, raised]; rfl, half, twice⟩

end Double

end ParticleMomentum
