import ChipEight.Proofs.TimeNumber.Doubles
import ChipEight.TimeNumber.Scalar

/-!
# Whole numbers as doubles

A whole number below the bound of significands is a double without rounding: its significand is the
number shifted until it is full (`ofInt?_eq`). So one more than such a number is exact as well
(`add_one_whole`), and a time that has to pass the whole second after another one lies in a later
second (`Scalar.exists_add_one`, `Scalar.le_value_of_atMost`).
-/

namespace ChipEight

open Float.Model (Format UnpackedFloat)
open Float.Model.UnpackedFloat

namespace Binary64

variable {n : Nat}

/-! ### Significands of whole numbers -/

theorem log2_mul_two_pow (hn : 0 < n) (k : Nat) : (n * 2 ^ k).log2 = n.log2 + k := by
  have hpos : 0 < n * 2 ^ k := Nat.mul_pos hn (Nat.two_pow_pos k)
  refine (Nat.log2_eq_iff hpos.ne').2 ⟨?_, ?_⟩
  · rw [Nat.pow_add]
    exact Nat.mul_le_mul_right _ (Nat.log2_self_le hn.ne')
  · rw [Nat.add_right_comm, Nat.pow_add]
    exact Nat.mul_lt_mul_of_pos_right Nat.lt_log2_self (Nat.two_pow_pos k)

/-- The full significand of a whole number. -/
def significand (n : Nat) : Nat :=
  n * 2 ^ (52 - n.log2)

theorem log2_le_of_lt (hn : 0 < n) (hlt : n < significandBound) : n.log2 ≤ 52 :=
  Nat.lt_succ_iff.1 ((Nat.log2_lt hn.ne').2 hlt)

theorem significand_pos (hn : 0 < n) : 0 < significand n :=
  Nat.mul_pos hn (Nat.two_pow_pos _)

theorem log2_significand (hn : 0 < n) (hlt : n < significandBound) :
    (significand n).log2 = 52 := by
  rw [significand, log2_mul_two_pow hn, Nat.add_sub_cancel' (log2_le_of_lt hn hlt)]

theorem significand_mul (hn : 0 < n) (hlt : n < significandBound) :
    significand n * 2 ^ n.log2 = n * 2 ^ 52 := by
  rw [significand, Nat.mul_assoc, ← Nat.pow_add, Nat.sub_add_cancel (log2_le_of_lt hn hlt)]

/-- The significand of a whole number is full. -/
theorem exists_fraction (hn : 0 < n) (hlt : n < significandBound) :
    ∃ fraction, significand n = fraction + hiddenBit ∧ fraction < hiddenBit := by
  obtain ⟨hlow, hhigh⟩ :=
    (Nat.log2_eq_iff (significand_pos hn).ne').1 (log2_significand hn hlt)
  obtain ⟨fraction, hfraction⟩ := Nat.exists_eq_add_of_le' hlow
  refine ⟨fraction, hfraction, ?_⟩
  change significand n < hiddenBit + hiddenBit at hhigh
  change significand n = fraction + hiddenBit at hfraction
  omega

/-- A whole number as an unpacked double. -/
def wholeDouble (n : Nat) (hn : 0 < n) : UnpackedFloat :=
  .finite .positive (significand n) (n.log2 - 52) (significand_pos hn)

theorem wholeDouble_one :
    wholeDouble 1 Nat.one_pos = .finite .positive (2 ^ 52) (-52) (Nat.two_pow_pos 52) := rfl

/-- A whole number as a double has its value. -/
theorem value?_whole {x : Float} (hn : 0 < n) (hlt : n < significandBound)
    (hx : x.toModel.unpack = wholeDouble n hn) : value? x = some (n : ℚ) := by
  have hle := log2_le_of_lt hn hlt
  have hshift : (n.log2 : ℤ) - 52 = -((52 - n.log2 : ℕ) : ℤ) := by omega
  rw [value?_of_unpack hx]
  refine congrArg some ?_
  show (((significand n : ℕ) : ℤ) : ℚ) * 2 ^ ((n.log2 : ℤ) - 52) = n
  rw [hshift, zpow_neg, zpow_natCast, significand]
  push_cast
  exact mul_inv_cancel_right₀ (pow_ne_zero _ two_ne_zero) _

/-! ### Bits -/

theorem roundQuotient_one (m : Nat) : roundQuotient m 1 = m := by
  unfold roundQuotient
  rw [Nat.div_one, Nat.mod_one, if_pos (.inl Nat.one_pos)]

theorem exponentFor_one (hn : 0 < n) (hlt : n < significandBound) :
    exponentFor n 1 = n.log2 - 52 := by
  have hle := log2_le_of_lt hn hlt
  have hlow : 2 ^ n.log2 ≤ n := Nat.log2_self_le hn.ne'
  have hfits : ¬ n * 2 ^ (53 - n.log2) < 2 ^ 53 := by
    refine Nat.not_lt.2 ?_
    calc 2 ^ 53 = 2 ^ n.log2 * 2 ^ (53 - n.log2) := by
          rw [← Nat.pow_add, Nat.add_sub_cancel' (by omega)]
      _ ≤ n * 2 ^ (53 - n.log2) := Nat.mul_le_mul_right _ hlow
  have hone : Nat.log2 1 = 0 := rfl
  have hneg : ((n.log2 : Int) - (0 : Nat) - 53) < 0 := by omega
  have habs : ((n.log2 : Int) - (0 : Nat) - 53).natAbs = 53 - n.log2 := by omega
  have hbound : 1 * significandBound = 2 ^ 53 := rfl
  unfold exponentFor
  simp only [hone, if_pos hneg, habs, powerOfTwo_eq, hbound, decide_eq_true_eq, if_neg hfits]
  unfold minExponent
  omega

theorem roundAt_one (hn : 0 < n) (hlt : n < significandBound) :
    roundAt n 1 (n.log2 - 52) = significand n := by
  have hle := log2_le_of_lt hn hlt
  have habs : ((n.log2 : Int) - 52).natAbs = 52 - n.log2 := by omega
  unfold roundAt significand
  rw [habs, powerOfTwo_eq]
  split
  · exact roundQuotient_one _
  · rw [show 52 - n.log2 = 0 by omega]
    simp [roundQuotient_one]

/-- The bits of a whole number as a double: the biased exponent, and the significand without its
leading bit. -/
theorem ofInt?_eq (hn : 0 < n) (hlt : n < significandBound) {fraction : Nat}
    (hfraction : significand n = fraction + hiddenBit) (hsmall : fraction < hiddenBit) :
    ofInt? n = some (Float.ofBits (UInt64.ofNat
      ((n.log2 + 1023) * hiddenBit + fraction))) := by
  have hle := log2_le_of_lt hn hlt
  have hbiased : ((n.log2 : Int) - 52 - minExponent + 1).toNat = n.log2 + 1023 := by
    unfold minExponent
    omega
  have hmax : ¬ (n.log2 : Int) - 52 > maxExponent := by
    unfold maxExponent
    omega
  have hbound : ¬ fraction + hiddenBit = significandBound := by
    rw [show significandBound = hiddenBit + hiddenBit from rfl]
    omega
  unfold ofInt? ofRatio?
  simp only [Int.natAbs_natCast, exponentFor_one hn hlt, if_neg hn.ne', roundAt_one hn hlt,
    hfraction]
  unfold magnitudeBits
  rw [if_neg (Nat.not_lt.2 (Nat.le_add_left _ _)), if_neg hbound]
  simp only [if_neg hmax, hbiased, Option.map_some, Nat.add_sub_cancel]
  rw [if_neg (by omega)]

/-- **A whole number is a double**, without rounding. -/
theorem exists_ofInt? (hn : 0 < n) (hlt : n < significandBound) :
    ∃ x, ofInt? n = some x ∧ x.toModel.unpack = wholeDouble n hn := by
  obtain ⟨fraction, hfraction, hsmall⟩ := exists_fraction hn hlt
  have hle := log2_le_of_lt hn hlt
  have hbit : 0 < hiddenBit := Nat.two_pow_pos 52
  have hdiv : ((n.log2 + 1023) * hiddenBit + fraction) / hiddenBit = n.log2 + 1023 := by
    rw [Nat.mul_comm, Nat.mul_add_div hbit, Nat.div_eq_of_lt hsmall, Nat.add_zero]
  have hmod : ((n.log2 + 1023) * hiddenBit + fraction) % hiddenBit = fraction := by
    rw [Nat.mul_comm, Nat.mul_add_mod, Nat.mod_eq_of_lt hsmall]
  have hsign : (n.log2 + 1023) * hiddenBit + fraction < signBit := by
    unfold hiddenBit signBit at *
    omega
  have hexponent : ((n.log2 + 1023 : Nat) : Int) - 1075 = n.log2 - 52 := by omega
  refine ⟨_, ofInt?_eq hn hlt hfraction hsmall, ?_⟩
  rw [unpack_ofBits hsign (by rw [hdiv]; omega) (by rw [hdiv]; omega)]
  unfold wholeDouble
  simp only [hdiv, hmod, hfraction, hexponent]

/-- Packing loses nothing of a whole number. -/
theorem unpack_pack_whole (hn : 0 < n) (hlt : n < significandBound) :
    unpack Format.binary64 (pack Format.binary64 (wholeDouble n hn)) = wholeDouble n hn := by
  obtain ⟨fraction, hfraction, hsmall⟩ := exists_fraction hn hlt
  have hle := log2_le_of_lt hn hlt
  have hexponent : (n.log2 : Int) - 52 = ((n.log2 + 1023 : Nat) : Int) - 1075 := by omega
  unfold wholeDouble
  simp only [hfraction, hexponent]
  exact unpack_pack (by omega) (by omega) hsmall _

/-! ### Rounding what is exact -/

/-- A shift that takes out zeros leaves no rest. -/
theorem shiftRight_exact (q k : Nat) :
    ExtendedMantissa.ofMantissaAndAccuracy (q * 2 ^ k) .exact >>> k = ⟨q, false, false⟩ := by
  show k.repeat ExtendedMantissa.shiftRightOne ⟨q * 2 ^ k, false, false⟩ = _
  induction k generalizing q with
  | zero => simp [Nat.repeat]
  | succ k ih =>
    rw [Nat.repeat, Nat.pow_succ', ← Nat.mul_assoc, ih]
    simp [ExtendedMantissa.shiftRightOne]

/-- The exponent that makes a mantissa full. -/
theorem targetExponent_eq {m : Nat} {e : Int} (h : minExponent ≤ m.log2 + e - 52) :
    Format.binary64.targetExponent (Float.Model.totalExponent m e) = m.log2 + e - 52 := by
  show max ((m.log2 : Int) + 1 + e - 53) (-1074) = _
  unfold minExponent at h
  omega

theorem shiftToTargetExponent_exact {q k : Nat} {e : Int} (hmin : minExponent ≤ e + k)
    (hlog : (q * 2 ^ k).log2 = 52 + k) :
    shiftToTargetExponent Format.binary64 (q * 2 ^ k) e .exact = (⟨q, false, false⟩, e + k) := by
  have htarget : Format.binary64.targetExponent (Float.Model.totalExponent (q * 2 ^ k) e) =
      e + k := by
    rw [targetExponent_eq]
    · omega
    · omega
  have hshift : (e + k - e).toNat = k := by omega
  unfold shiftToTargetExponent shiftToExponent
  simp only [htarget, hshift, shiftRight_exact]

/-- Rounding a full mantissa with zeros behind it takes the zeros out. -/
theorem roundWithAccuracy_exact {q k : Nat} {e : Int} (hpos : 0 < q) (hlog : q.log2 = 52)
    (hmin : minExponent ≤ e + k) :
    roundWithAccuracy Format.binary64 .positive (q * 2 ^ k) e .exact =
      .finite .positive q (e + k) hpos := by
  have hfirst := shiftToTargetExponent_exact (q := q) hmin
    (by rw [log2_mul_two_pow hpos, hlog])
  have hsecond := shiftToTargetExponent_exact (q := q) (k := 0) (e := e + k)
    (by rwa [Nat.cast_zero, add_zero]) (by rw [pow_zero, Nat.mul_one, hlog])
  rw [pow_zero, Nat.mul_one, Nat.cast_zero, add_zero] at hsecond
  unfold roundWithAccuracy
  rw [hfirst]
  dsimp only [ExtendedMantissa.roundedMantissa, ExtendedMantissa.accuracy,
    Accuracy.roundToNearestEven]
  simp only [hsecond, dif_neg hpos.ne']

/-- **Rounding a whole number** that is given in units of the least bit gives it exactly. -/
theorem round_whole (hn : 0 < n) (hlt : n < significandBound) :
    UnpackedFloat.round Format.binary64 .positive (n * 2 ^ 52) (-52) =
      .finite .positive (significand n) (n.log2 - 52) (significand_pos hn) := by
  have hle := log2_le_of_lt hn hlt
  have htarget : Format.binary64.targetExponent
      (Float.Model.totalExponent (n * 2 ^ 52) (-52)) = n.log2 - 52 := by
    rw [targetExponent_eq, log2_mul_two_pow hn]
    · omega
    · rw [log2_mul_two_pow hn]
      unfold minExponent
      omega
  have hup : ((-52 : Int) - (n.log2 - 52)).toNat = 0 := by omega
  have hsum : (-52 : Int) + n.log2 = n.log2 - 52 := by omega
  unfold UnpackedFloat.round decreaseExponent
  simp only [htarget, hup]
  rw [Nat.shiftLeft_zero, Nat.cast_zero, sub_zero, ← significand_mul hn hlt,
    roundWithAccuracy_exact (significand_pos hn) (log2_significand hn hlt)]
  · simp only [hsum]
  · unfold minExponent
    omega

/-! ### One more -/

/-- One and a whole number, aligned, add up to the next whole number. -/
theorem add_aligned (hn : 0 < n) (hlt : n < significandBound) :
    UnpackedFloat.add Format.binary64 (wholeDouble n hn)
        (.finite .positive (2 ^ 52) (-52) (Nat.two_pow_pos 52)) =
      UnpackedFloat.normalize Format.binary64 (((n + 1) * 2 ^ 52 : Nat) : Int) (-52) .positive := by
  have hle := log2_le_of_lt hn hlt
  have hmin : min ((n.log2 : Int) - 52) (-52) = -52 := by omega
  have hshift : ((n.log2 : Int) - 52 - -52).toNat = n.log2 := by omega
  have hstay : ((-52 : Int) - -52).toNat = 0 := rfl
  unfold wholeDouble UnpackedFloat.add
  simp only [hmin, decreaseExponent, hshift, hstay, Nat.shiftLeft_eq, significand_mul hn hlt,
    pow_zero, Nat.mul_one, Sign.apply, ← Int.natCast_add, ← Nat.succ_mul]

theorem normalize_of_pos {m : Nat} (hm : 0 < m) (e : Int) :
    UnpackedFloat.normalize Format.binary64 (m : Int) e .positive =
      UnpackedFloat.round Format.binary64 .positive m e := by
  have hgt : compare (m : Int) 0 = .gt := Int.compare_eq_gt.2 (Int.natCast_pos.2 hm)
  unfold UnpackedFloat.normalize
  rw [hgt]
  rfl

/-- **One more than a whole number** is exact. -/
theorem add_one_whole (hn : 0 < n) (hlt : n < hiddenBit) {x y : Float}
    (hx : x.toModel.unpack = wholeDouble n hn) (hy : y.toModel.unpack = wholeDouble 1 Nat.one_pos) :
    (x + y).toModel.unpack = wholeDouble (n + 1) n.succ_pos := by
  have hbound : n + 1 < significandBound := by
    change n + 1 < hiddenBit + hiddenBit
    omega
  show unpack Format.binary64 (pack Format.binary64
    (UnpackedFloat.add Format.binary64 x.toModel.unpack y.toModel.unpack)) = _
  rw [hx, hy, wholeDouble_one, add_aligned hn (Nat.lt_of_succ_lt hbound),
    normalize_of_pos (Nat.mul_pos n.succ_pos (Nat.two_pow_pos 52)), round_whole n.succ_pos hbound]
  exact unpack_pack_whole n.succ_pos hbound

/-- One more than zero is one. -/
theorem zero_add_one {y : Float} (hy : y.toModel.unpack = wholeDouble 1 Nat.one_pos) :
    ∃ x, ofInt? 0 = some x ∧ (x + y).toModel.unpack = wholeDouble 1 Nat.one_pos := by
  refine ⟨_, rfl, ?_⟩
  show unpack Format.binary64 (pack Format.binary64
    (UnpackedFloat.add Format.binary64 (.zero .positive) y.toModel.unpack)) = _
  rw [hy]
  exact unpack_pack_whole Nat.one_pos (by decide)

end Binary64

namespace Scalar

/-- The value of a finite number. -/
def value? : Scalar → Option ℚ
  | whole n => some n
  | real x => Binary64.value? x

variable {t : Scalar} {v : ℚ}

/-- **The whole part** of a number that is not below zero is the floor of its value. -/
theorem wholePart_eq (hv : t.value? = some v) (hnonneg : 0 ≤ v) : t.wholePart = .ok ⌊v⌋ := by
  cases t with
  | whole n =>
    obtain rfl : (n : ℚ) = v := Option.some.inj hv
    rw [Int.floor_intCast]
    rfl
  | real x =>
    unfold wholePart
    dsimp only
    rw [Binary64.truncate?_eq hv hnonneg]

/-- The sum of a whole number and the double one is the double of the next whole number. -/
theorem exists_add_one {n : Nat} (hlt : n < Binary64.hiddenBit) :
    ∃ y, TimeNumber.add (TimeNumber.ofInt n) (TimeNumber.ratio 1 1) = .ok (real y) ∧
      y.toModel.unpack = Binary64.wholeDouble (n + 1) n.succ_pos := by
  obtain ⟨one, hone, hunpack⟩ := Binary64.exists_ofInt? Nat.one_pos (by decide)
  have hratio : (TimeNumber.ratio 1 1 : Scalar) = real one := by
    show real ((Binary64.ofRatio? 1 1).getD 0.0) = real one
    rw [show Binary64.ofRatio? 1 1 = some one from hone]
    rfl
  obtain ⟨x, hx, hsum⟩ : ∃ x, Binary64.ofInt? n = some x ∧
      (x + one).toModel.unpack = Binary64.wholeDouble (n + 1) n.succ_pos := by
    rcases Nat.eq_zero_or_pos n with rfl | hn
    · exact Binary64.zero_add_one hunpack
    · obtain ⟨x, hx, hxunpack⟩ := Binary64.exists_ofInt? hn (hlt.trans (by decide))
      exact ⟨x, hx, Binary64.add_one_whole hn hlt hxunpack hunpack⟩
  have hfloat : (whole n).toFloat = .ok x := by
    unfold toFloat
    dsimp only
    rw [hx]
  refine ⟨x + one, ?_, hsum⟩
  rw [hratio]
  show (do return real ((← (whole n).toFloat) + one)) = _
  rw [hfloat]
  rfl

/-- A number that is at least the double of a whole number has at least its value. -/
theorem le_value_of_atMost {y : Float} {n : Nat} (hn : 0 < n) (hlt : n < Binary64.significandBound)
    (hy : y.toModel.unpack = Binary64.wholeDouble n hn) (hv : t.value? = some v)
    (h : (real y).atMost t = true) : (n : ℚ) ≤ v := by
  have hvalue := Binary64.value?_whole hn hlt hy
  cases t with
  | whole k =>
    obtain rfl : (k : ℚ) = v := Option.some.inj hv
    exact Binary64.value_le_of_compareInt? hvalue h
  | real x =>
    have hbound := Binary64.le_value_of_le hy hv (of_decide_eq_true h)
    rw [Binary64.value?_of_unpack hy] at hvalue
    rw [← Option.some.inj hvalue]
    exact_mod_cast hbound

end Scalar

end ChipEight
