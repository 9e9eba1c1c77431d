import Mathlib.Algebra.Order.Field.Rat
import Mathlib.Data.Int.NatAbs
import Mathlib.Tactic.NormNum
import ServiceStubs.Number.Decimal

/-!
# Whole numbers in double precision

Whole numbers below `2 ^ 53` need no rounding. Counting among them is exact, and so are their texts.

* `Double.value?` is the value of a number as a fraction, and `Double.whole` says what it means that it is whole;
* `Magnitude.value?_ofRatio` says that a quotient that is such a number is not rounded;
* `Double.value?_negate`, `Double.value?_successor` and `Double.value?_iterate_successor` do arithmetic with values;
* `Double.decimal_of_whole` says that the text of such a number is its decimal spelling.
-/

namespace ServiceStubs

/-! ## Values -/

/-- The value of a finite magnitude. -/
def Magnitude.value? : Magnitude → Option ℚ
  | .finite mantissa exponent => some (mantissa * 2 ^ exponent)
  | .infinite => none

/-- The value of a finite number. Both zeros have the same. -/
def Double.value? (x : Double) : Option ℚ :=
  x.magnitude.value?.map fun size => if x.negative then -size else size

/-- A power of two as the quotient of two powers that are whole. -/
theorem zpow_two_eq (exponent : ℤ) :
    (2 : ℚ) ^ exponent = (Nat.pow 2 exponent.toNat : ℕ) / (Nat.pow 2 (-exponent).toNat : ℕ) := by
  rcases le_total 0 exponent with h | h
  · obtain ⟨n, rfl⟩ := Int.eq_ofNat_of_zero_le h
    simp
  · obtain ⟨n, hn⟩ := Int.eq_ofNat_of_zero_le (neg_nonneg.mpr h)
    obtain rfl : exponent = -(n : ℤ) := by omega
    simp

theorem Magnitude.value?_finite_iff {mantissa n : ℕ} {exponent : ℤ} :
    (Magnitude.finite mantissa exponent).value? = some (n : ℚ) ↔
      mantissa * Nat.pow 2 exponent.toNat = n * Nat.pow 2 (-exponent).toNat := by
  have hden : (Nat.pow 2 (-exponent).toNat : ℚ) ≠ 0 := by
    exact_mod_cast (Nat.two_pow_pos _).ne'
  rw [Magnitude.value?, Option.some_inj, zpow_two_eq, ← mul_div_assoc, div_eq_iff hden]
  norm_cast

theorem Magnitude.value?_nonneg {x : Magnitude} {size : ℚ} (h : x.value? = some size) : 0 ≤ size := by
  cases x with
  | infinite => cases h
  | finite mantissa exponent =>
    obtain rfl := Option.some.inj h
    exact mul_nonneg (Nat.cast_nonneg mantissa) (zpow_nonneg (by norm_num) exponent)

/-- A magnitude that is a natural number, as numerator and denominator. -/
theorem Magnitude.eq_finite {x : Magnitude} {n : ℕ} (h : x.value? = some (n : ℚ)) :
    ∃ mantissa exponent, x = .finite mantissa exponent ∧
      mantissa * Nat.pow 2 exponent.toNat = n * 2 ^ (-exponent).toNat := by
  cases x with
  | infinite => cases h
  | finite mantissa exponent => exact ⟨mantissa, exponent, rfl, value?_finite_iff.mp h⟩

theorem Double.value?_mk {x : Magnitude} {n : ℕ} (h : x.value? = some (n : ℚ)) (negative : Bool) :
    (Double.mk negative x).value? = some ((if negative then -(n : ℤ) else n : ℤ) : ℚ) := by
  cases negative <;> simp [Double.value?, h]

/-- A number is whole if its size is. -/
theorem Double.whole {x : Double} {z : ℤ} (h : x.value? = some (z : ℚ)) :
    x.magnitude.value? = some (z.natAbs : ℚ) ∧ z = if x.negative then -(z.natAbs : ℤ) else z.natAbs := by
  obtain ⟨size, hsize, hsign⟩ := Option.map_eq_some_iff.mp h
  have hnonneg := Magnitude.value?_nonneg hsize
  have habs : size = (z.natAbs : ℚ) := by
    rw [Nat.cast_natAbs, Int.cast_abs, ← hsign]
    split
    · rw [abs_neg, abs_of_nonneg hnonneg]
    · rw [abs_of_nonneg hnonneg]
  refine ⟨hsize.trans (congrArg some habs), ?_⟩
  rw [habs] at hsign
  rw [← @Int.cast_inj ℚ, ← hsign]
  split
  · rw [Int.cast_neg, Int.cast_natCast]
  · rw [Int.cast_natCast]

/-! ## Rounding -/

theorem log2_mul_two_pow {n : ℕ} (h : n ≠ 0) (k : ℕ) : (n * 2 ^ k).log2 = n.log2 + k := by
  rw [Nat.log2_eq_iff (Nat.mul_ne_zero h (Nat.two_pow_pos k).ne'), Nat.pow_add, add_right_comm, Nat.pow_add]
  constructor
  · exact Nat.mul_le_mul_right _ (Nat.log2_self_le h)
  · exact Nat.mul_lt_mul_of_pos_right Nat.lt_log2_self (Nat.two_pow_pos k)

/-- A quotient that is whole is not rounded. -/
theorem roundHalfEven_mul (n : ℕ) {den : ℕ} (h : 0 < den) : roundHalfEven (n * den) den = n := by
  unfold roundHalfEven
  simp [Nat.mul_div_cancel n h, h]

variable {n : ℕ}

/-- A natural number as a quotient by a power of two, shifted to the left. -/
theorem scaledRatio_mul (n k : ℕ) {exponent : ℤ} (h : exponent ≤ 0) :
    scaledRatio (n * 2 ^ k) (2 ^ k) exponent = (n * 2 ^ (-exponent).toNat * 2 ^ k, 2 ^ k) := by
  have hzero : exponent.toNat = 0 := Int.toNat_of_nonpos h
  unfold scaledRatio
  rw [hzero, Prod.mk.injEq]
  exact ⟨Nat.mul_right_comm _ _ _, Nat.mul_one _⟩

/-- The mantissa of a natural number is shifted until it has 53 digits. -/
theorem ratioExponent_mul (h0 : n ≠ 0) (hn : n < mantissaBound) (k : ℕ) :
    ratioExponent (n * 2 ^ k) (2 ^ k) = (n.log2 : ℤ) - 52 := by
  have hlog : n.log2 < 53 := (Nat.log2_lt h0).mpr hn
  have hguess : ((n * 2 ^ k).log2 : ℤ) - ((2 ^ k).log2 : ℤ) - 53 = (n.log2 : ℤ) - 53 := by
    rw [log2_mul_two_pow h0, Nat.log2_two_pow]
    omega
  have hfull : mantissaBound ≤ n * 2 ^ (-((n.log2 : ℤ) - 53)).toNat := by
    have hplaces : (-((n.log2 : ℤ) - 53)).toNat = 53 - n.log2 := by omega
    calc mantissaBound = 2 ^ n.log2 * 2 ^ (53 - n.log2) := by
          rw [← Nat.pow_add, Nat.add_sub_cancel' hlog.le]
          rfl
      _ ≤ n * 2 ^ (53 - n.log2) := Nat.mul_le_mul_right _ (Nat.log2_self_le h0)
      _ = n * 2 ^ (-((n.log2 : ℤ) - 53)).toNat := by rw [hplaces]
  unfold ratioExponent
  simp only [hguess]
  rw [scaledRatio_mul n k (by omega), Nat.mul_div_cancel _ (Nat.two_pow_pos k), if_neg hfull.not_gt]
  unfold leastExponent
  omega

/-- Natural numbers below the bound are not rounded. -/
theorem Magnitude.value?_ofRatio (hn : n < mantissaBound) (k : ℕ) :
    (Magnitude.ofRatio (n * 2 ^ k) (2 ^ k)).value? = some (n : ℚ) := by
  rcases eq_or_ne n 0 with rfl | h0
  · simp [Magnitude.ofRatio, Magnitude.value?]
  have hlog : n.log2 < 53 := (Nat.log2_lt h0).mpr hn
  have hplaces : (-((n.log2 : ℤ) - 52)).toNat = 52 - n.log2 := by omega
  -- The number is shifted up until its leading bit is the first one of the mantissa.
  have hmantissa : n * 2 ^ (52 - n.log2) < mantissaBound := by
    calc n * 2 ^ (52 - n.log2) < 2 ^ (n.log2 + 1) * 2 ^ (52 - n.log2) :=
          Nat.mul_lt_mul_of_pos_right Nat.lt_log2_self (Nat.two_pow_pos _)
      _ = mantissaBound := by
          rw [← Nat.pow_add, show n.log2 + 1 + (52 - n.log2) = 53 by omega]
          rfl
  have hexponent : (n.log2 : ℤ) - 52 ≤ greatestExponent := by
    unfold greatestExponent
    omega
  have hfinite : Magnitude.ofRatio (n * 2 ^ k) (2 ^ k) = .finite (n * 2 ^ (52 - n.log2)) ((n.log2 : ℤ) - 52) := by
    unfold Magnitude.ofRatio
    simp only [ratioExponent_mul h0 hn]
    rw [if_neg (Nat.mul_ne_zero h0 (Nat.two_pow_pos k).ne'), scaledRatio_mul n k (by omega),
      roundHalfEven_mul _ (Nat.two_pow_pos k), hplaces, if_pos hmantissa, if_pos hexponent]
  rw [hfinite, value?_finite_iff, hplaces, Int.toNat_of_nonpos (by omega)]
  exact Nat.mul_one _

/-! ## Arithmetic -/

theorem Double.value?_ofNat (hn : n < mantissaBound) : (Double.ofNat n).value? = some ((n : ℤ) : ℚ) := by
  have hmagnitude := Magnitude.value?_ofRatio hn 0
  rw [Nat.pow_zero, Nat.mul_one] at hmagnitude
  exact Double.value?_mk hmagnitude false

theorem Double.value?_negate (x : Double) : x.negate.value? = x.value?.map fun value => -value := by
  obtain ⟨negative, magnitude⟩ := x
  unfold Double.negate Double.value?
  rw [Option.map_map]
  cases negative <;> simp [Function.comp_def]

/-- A quotient of multiples of a power of two, with a sign. -/
theorem Double.value?_quotient {num den k : ℕ} {negative : Bool} {z : ℤ} (hden : den = 2 ^ k) (hnum : num = n * 2 ^ k)
    (hn : n < mantissaBound) (hz : z = if negative then -(n : ℤ) else n) :
    (Double.mk negative (.ofRatio num den)).value? = some (z : ℚ) := by
  rw [hnum, hden, hz]
  exact Double.value?_mk (Magnitude.value?_ofRatio hn k) negative

/-- One more than a whole number. -/
theorem Double.value?_successor {x : Double} {z : ℤ} (h : x.value? = some (z : ℚ)) (hz : z.natAbs + 1 < mantissaBound) :
    x.successor.value? = some ((z + 1 : ℤ) : ℚ) := by
  obtain ⟨hmagnitude, hsign⟩ := Double.whole h
  obtain ⟨mantissa, exponent, heq, hnum⟩ := Magnitude.eq_finite hmagnitude
  obtain ⟨negative, magnitude⟩ := x
  obtain rfl : magnitude = .finite mantissa exponent := heq
  generalize z.natAbs = size at hsign hnum hz
  have hden : Nat.pow 2 (-exponent).toNat = 2 ^ (-exponent).toNat := rfl
  have hpos : 0 < 2 ^ (-exponent).toNat := Nat.two_pow_pos _
  simp only [Double.successor, hnum]
  cases negative with
  | false =>
    obtain rfl : z = (size : ℤ) := hsign
    have hsum : size * 2 ^ (-exponent).toNat + Nat.pow 2 (-exponent).toNat = (size + 1) * 2 ^ (-exponent).toNat := by
      rw [hden, Nat.add_mul, Nat.one_mul]
    exact value?_quotient hden hsum hz (Int.natCast_succ size).symm
  | true =>
    obtain rfl : z = -(size : ℤ) := hsign
    have hle : size * 2 ^ (-exponent).toNat ≤ Nat.pow 2 (-exponent).toNat ↔ size ≤ 1 := by
      rw [hden, mul_le_iff_le_one_left hpos]
    rw [if_pos rfl]
    -- The sign changes at minus one, where the next number is zero.
    split
    · next hless =>
      have hsize := hle.mp hless
      have hdifference : Nat.pow 2 (-exponent).toNat - size * 2 ^ (-exponent).toNat =
          (1 - size) * 2 ^ (-exponent).toNat := by
        rw [hden, Nat.sub_mul, Nat.one_mul]
      refine value?_quotient hden hdifference (by omega) ?_
      rw [if_neg Bool.false_ne_true]
      omega
    · next hmore =>
      have hsize := mt hle.mpr hmore
      have hdifference : size * 2 ^ (-exponent).toNat - Nat.pow 2 (-exponent).toNat =
          (size - 1) * 2 ^ (-exponent).toNat := by
        rw [hden, Nat.sub_mul, Nat.one_mul]
      refine value?_quotient hden hdifference (by omega) ?_
      rw [if_pos rfl]
      omega

theorem Double.value?_iterate_successor {x : Double} {z : ℤ} (h : x.value? = some (z : ℚ)) {k : ℕ}
    (hk : z.natAbs + k < mantissaBound) : (Double.successor^[k] x).value? = some ((z + k : ℤ) : ℚ) := by
  induction k with
  | zero => simpa using h
  | succ k ih =>
    rw [Function.iterate_succ_apply', value?_successor (ih (by omega)) (by omega)]
    congr 2
    push_cast
    omega

/-- Beyond the bound counting stands still. -/
example : (Double.ofNat (2 ^ 53)).successor = Double.ofNat (2 ^ 53) := by decide

/-! ## Texts -/

theorem Magnitude.smallNat?_of_value? {x : Magnitude} (h : x.value? = some (n : ℚ)) (hn : n < mantissaBound) :
    x.smallNat? = some n := by
  obtain ⟨mantissa, exponent, rfl, hnum⟩ := Magnitude.eq_finite h
  have hpos : 0 < 2 ^ (-exponent).toNat := Nat.two_pow_pos _
  have hden : Nat.pow 2 (-exponent).toNat = 2 ^ (-exponent).toNat := rfl
  simp only [Magnitude.smallNat?, hnum, hden, Nat.mul_mod_left, Nat.mul_div_cancel _ hpos]
  rw [if_pos ⟨trivial, hn⟩]

theorem Magnitude.decimal_of_value? {x : Magnitude} (h : x.value? = some (n : ℚ)) (hn : n < mantissaBound) :
    x.decimal = Nat.toDigits 10 n := by
  unfold Magnitude.decimal
  rw [smallNat?_of_value? h hn]
  rfl

/-- The text of a whole number is its decimal spelling. -/
theorem Double.decimal_of_whole {x : Double} {z : ℤ} (h : x.value? = some (z : ℚ)) (hz : z.natAbs < mantissaBound) :
    x.decimal = toString z := by
  obtain ⟨hmagnitude, hsign⟩ := Double.whole h
  generalize z.natAbs = size at hmagnitude hsign hz
  unfold Double.decimal
  rw [Magnitude.smallNat?_of_value? hmagnitude hz, Magnitude.decimal_of_value? hmagnitude hz]
  cases hnegative : x.negative with
  | false =>
    rw [hnegative, if_neg Bool.false_ne_true] at hsign
    rw [hsign, if_neg fun hminus => Bool.false_ne_true hminus.1]
    rfl
  | true =>
    rw [hnegative, if_pos rfl] at hsign
    cases size with
    | zero =>
      rw [hsign, if_neg fun hminus => hminus.2 rfl]
      rfl
    | succ size =>
      have hminus : some (size + 1) ≠ some 0 := fun heq => Nat.succ_ne_zero size (Option.some.inj heq)
      rw [hsign, if_pos ⟨rfl, hminus⟩, String.ofList_cons]
      rfl

end ServiceStubs
