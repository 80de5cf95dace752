import ChipEight.TimeNumber.Binary64
import Mathlib

/-!
# Doubles and their values

A double is read in two ways. `Binary64.toExact?` reads its bits as a signed significand and an
exponent of two. The arithmetic of doubles reads it as an `UnpackedFloat`: a sign, a mantissa and an
exponent. The two readings agree (`toExact?_eq`), so a finite double has one value, a fraction
(`value?`), and what the arithmetic does with it can be followed in fractions.

A double that was read is in canonical form: its mantissa is full unless its exponent is the least
one. For such doubles the order of the forms is the order of the values (`le_value_of_le`), and
packing a full mantissa loses nothing (`unpack_pack`). The whole part of a double that is not below
zero is the floor of its value (`truncate?_eq`).
-/

namespace ChipEight.Binary64

open Float.Model (Format UnpackedFloat)
open Float.Model.UnpackedFloat

/-! ### The fields of a double -/

section Fields

variable (b : BitVec Format.binary64.numBits)

theorem toNat_unpackMantissa : (unpackMantissa b).toNat = b.toNat % hiddenBit := by
  unfold unpackMantissa
  rw [BitVec.toNat_cast, BitVec.extractLsb_toNat, Nat.shiftRight_zero]
  rfl

theorem toNat_unpackExponent : (unpackExponent b).toNat = b.toNat / hiddenBit % 2048 := by
  unfold unpackExponent
  rw [BitVec.toNat_cast, BitVec.extractLsb_toNat, Nat.shiftRight_eq_div_pow]
  rfl

theorem ofBitVec_unpackSign :
    Sign.ofBitVec (unpackSign b) = if b.toNat < signBit then .positive else .negative := by
  have hlt : b.toNat < 2 ^ 64 := b.isLt
  have hsign : (unpackSign b).toNat = b.toNat / signBit := by
    unfold unpackSign
    rw [BitVec.toNat_cast, BitVec.extractLsb_toNat, Nat.shiftRight_eq_div_pow]
    show b.toNat / signBit % 2 = _
    unfold signBit
    omega
  have hzero : unpackSign b = 0#1 ↔ b.toNat < signBit := by
    rw [← BitVec.toNat_inj, hsign]
    show b.toNat / signBit = 0 ↔ _
    unfold signBit
    omega
  unfold Sign.ofBitVec
  by_cases h : b.toNat < signBit
  · rw [if_pos h, if_pos (hzero.2 h)]
  · rw [if_neg h, if_neg (mt hzero.1 h)]

/-- The exponent field of what is not a finite number is full. -/
theorem unpackExponent_full_iff :
    unpackExponent b = -1#_ ↔ b.toNat / hiddenBit % 2048 = 2047 := by
  rw [← BitVec.toNat_inj, toNat_unpackExponent]
  rfl

/-- The exponent field of a finite number without a full mantissa is empty. -/
theorem unpackExponent_empty_iff :
    unpackExponent b = 0#_ ↔ b.toNat / hiddenBit % 2048 = 0 := by
  rw [← BitVec.toNat_inj, toNat_unpackExponent]
  rfl

theorem toNat_append_one (m : BitVec 52) : (1#1 ++ m).toNat = m.toNat + hiddenBit := by
  have hlt : m.toNat < 2 ^ 52 := m.isLt
  rw [BitVec.toNat_append, ← Nat.shiftLeft_add_eq_or_of_lt hlt, Nat.add_comm]
  rfl

variable {b}

/-- A double with a full mantissa, by its fields. -/
theorem unpack_of_normal (hempty : b.toNat / hiddenBit % 2048 ≠ 0)
    (hfull : b.toNat / hiddenBit % 2048 ≠ 2047) :
    unpack Format.binary64 b = .finite (if b.toNat < signBit then .positive else .negative)
      (b.toNat % hiddenBit + hiddenBit) ((b.toNat / hiddenBit % 2048 : Nat) - 1075)
      (Nat.add_pos_right _ (Nat.two_pow_pos 52)) := by
  unfold unpack
  simp only [if_neg (mt (unpackExponent_full_iff b).1 hfull),
    if_neg (mt (unpackExponent_empty_iff b).1 hempty), ofBitVec_unpackSign, toNat_append_one,
    toNat_unpackExponent, toNat_unpackMantissa]
  rfl

end Fields

/-! ### Packing -/

variable {s : Sign} {m biased : Nat}

theorem unpack_packComponents (hpos : 0 < biased) (hlt : biased < 2047) (hm : m < hiddenBit)
    (h : 0 < m + hiddenBit) :
    unpack Format.binary64 (packComponents Format.binary64 s (BitVec.ofNat 11 biased)
      (BitVec.ofNat 52 m)) = .finite s (m + hiddenBit) (biased - 1075 : Int) h := by
  have hexponent : (BitVec.ofNat 11 biased).toNat = biased := by
    rw [BitVec.toNat_ofNat, Nat.mod_eq_of_lt (by omega)]
  have hmantissa : (BitVec.ofNat 52 m).toNat = m := by
    rw [BitVec.toNat_ofNat]
    exact Nat.mod_eq_of_lt hm
  have hfull : BitVec.ofNat 11 biased ≠ -1#_ := fun heq ↦ by
    have hbits := congrArg BitVec.toNat heq
    rw [hexponent] at hbits
    exact hlt.ne hbits
  have hempty : BitVec.ofNat 11 biased ≠ 0#_ := fun heq ↦ by
    have hbits := congrArg BitVec.toNat heq
    rw [hexponent] at hbits
    exact hpos.ne' hbits
  unfold unpack
  simp only [unpackExponent_packComponents, unpackMantissa_packComponents,
    unpackSign_packComponents, Sign.ofBitVec_toBitVec, hexponent, if_neg hfull, if_neg hempty]
  congr 1
  rw [toNat_append_one, hmantissa]

/-- **Packing loses nothing** of a full mantissa with an exponent in range. -/
theorem unpack_pack (hpos : 0 < biased) (hlt : biased < 2047) (hm : m < hiddenBit)
    (h : 0 < m + hiddenBit) :
    unpack Format.binary64
        (pack Format.binary64 (.finite s (m + hiddenBit) (biased - 1075 : Int) h)) =
      .finite s (m + hiddenBit) (biased - 1075 : Int) h := by
  have hlog : (m + hiddenBit).log2 + 1 = Format.binary64.mantissaBits := by
    have hhigh : m + 2 ^ 52 < 2 ^ (52 + 1) := by
      change m < 2 ^ 52 at hm
      omega
    rw [(Nat.log2_eq_iff h.ne').2 ⟨Nat.le_add_left (2 ^ 52) m, hhigh⟩]
    rfl
  have hbiased : ((biased - 1075 : Int) + Format.binary64.exponentBias +
      Format.binary64.mantissaBitsWithoutImplicit).toNat = biased := by
    show ((biased - 1075 : Int) + 1023 + 52).toNat = biased
    omega
  have hfits : ¬ 2 ^ Format.binary64.exponentBits ≤ biased + 1 := by
    show ¬ 2048 ≤ biased + 1
    omega
  have hstored : BitVec.ofNat 52 (m + hiddenBit) = BitVec.ofNat 52 m := by
    rw [← BitVec.toNat_inj, BitVec.toNat_ofNat, BitVec.toNat_ofNat]
    exact Nat.add_mod_right m hiddenBit
  unfold pack
  simp only [hbiased, if_neg hfits, if_pos hlog, hstored]
  exact unpack_packComponents hpos hlt hm h

/-- The double of some bits that stand for a positive number with a full mantissa. -/
theorem unpack_ofBits {bits : Nat} (hlt : bits < signBit) (hempty : bits / hiddenBit ≠ 0)
    (hfull : bits / hiddenBit ≠ 2047) :
    (Float.ofBits (UInt64.ofNat bits)).toModel.unpack = .finite .positive
      (bits % hiddenBit + hiddenBit) ((bits / hiddenBit : Nat) - 1075)
      (Nat.add_pos_right _ (Nat.two_pow_pos 52)) := by
  have hbits : (UInt64.ofNat bits).toBitVec.toNat = bits :=
    Nat.mod_eq_of_lt (hlt.trans (by decide))
  have hsmall : bits / hiddenBit < 2048 := Nat.div_lt_of_lt_mul hlt
  have hunpack : unpack Format.binary64 (UInt64.ofNat bits).toBitVec = _ := unpack_of_normal
    (by rwa [hbits, Nat.mod_eq_of_lt hsmall]) (by rwa [hbits, Nat.mod_eq_of_lt hsmall])
  simp only [hbits, if_pos hlt, Nat.mod_eq_of_lt hsmall] at hunpack
  -- Reading bits packs what was read once more, to have one form of what is not a number.
  show unpack Format.binary64 (pack Format.binary64
    (unpack Format.binary64 (UInt64.ofNat bits).toBitVec)) = _
  rw [hunpack]
  exact unpack_pack (Nat.pos_of_ne_zero hempty)
    (lt_of_le_of_ne (Nat.le_of_lt_succ hsmall) hfull) (Nat.mod_lt _ (Nat.two_pow_pos 52)) _

/-! ### Values -/

/-- A finite unpacked double as a signed significand and an exponent of two. -/
def exactOf? : UnpackedFloat → Option (Int × Int)
  | .finite s m e _ => some (s.apply m, e)
  | .zero _ => some (0, minExponent)
  | .infinity _ | .notANumber => none

theorem exactOf?_unpack (b : BitVec Format.binary64.numBits) :
    exactOf? (unpack Format.binary64 b) =
      let exponent : Nat := b.toNat / hiddenBit % 2048
      let fraction : Nat := b.toNat % hiddenBit
      let sign : Int := if b.toNat < signBit then 1 else -1
      if exponent = 2047 then none
      else if exponent = 0 then some (sign * fraction, minExponent)
      else some (sign * ((fraction + hiddenBit : Nat) : Int), (exponent : Int) - 1 + minExponent) := by
  have happly (n : Nat) : (if b.toNat < signBit then Sign.positive else Sign.negative).apply n =
      (if b.toNat < signBit then 1 else -1) * (n : Int) := by
    split
    · rw [one_mul]
      rfl
    · rw [neg_one_mul]
      rfl
  by_cases hfull : b.toNat / hiddenBit % 2048 = 2047
  · unfold unpack
    simp only [if_pos hfull, if_pos ((unpackExponent_full_iff b).2 hfull)]
    split <;> rfl
  · by_cases hempty : b.toNat / hiddenBit % 2048 = 0
    · unfold unpack
      simp only [if_neg hfull, if_neg (mt (unpackExponent_full_iff b).1 hfull), if_pos hempty,
        if_pos ((unpackExponent_empty_iff b).2 hempty)]
      split
      · rename_i hzero
        have hfraction := toNat_unpackMantissa b
        rw [hzero] at hfraction
        rw [← hfraction]
        simp [exactOf?]
      · unfold exactOf?
        simp only [ofBitVec_unpackSign, happly, toNat_unpackMantissa, toNat_unpackExponent, hempty]
        rfl
    · rw [unpack_of_normal hempty hfull]
      unfold exactOf?
      simp only [if_neg hfull, if_neg hempty, happly]
      congr 2
      unfold minExponent
      omega

/-- **The two readings of a double agree.** -/
theorem toExact?_eq (x : Float) : toExact? x = exactOf? x.toModel.unpack :=
  (exactOf?_unpack _).symm

/-- The value of a finite double. -/
def value? (x : Float) : Option ℚ :=
  (toExact? x).map fun (m, e) ↦ m * (2 : ℚ) ^ e

variable {x y : Float} {v : ℚ}

theorem value?_of_unpack {e : Int} {h : 0 < m} (hx : x.toModel.unpack = .finite s m e h) :
    value? x = some ((s.apply m : ℤ) * (2 : ℚ) ^ e) := by
  unfold value?
  rw [toExact?_eq, hx]
  rfl

/-! ### Order -/

/-- The mantissa is in range, and full unless the exponent is the least one. -/
def Canonical : UnpackedFloat → Prop
  | .finite _ m e _ => m < significandBound ∧ minExponent ≤ e ∧ (hiddenBit ≤ m ∨ e = minExponent)
  | _ => True

theorem canonical_unpack (b : BitVec Format.binary64.numBits) :
    Canonical (unpack Format.binary64 b) := by
  have hfraction : b.toNat % hiddenBit < hiddenBit := Nat.mod_lt _ (Nat.two_pow_pos 52)
  have hbound : significandBound = hiddenBit + hiddenBit := rfl
  by_cases hfull : b.toNat / hiddenBit % 2048 = 2047
  · unfold unpack
    simp only [if_pos ((unpackExponent_full_iff b).2 hfull)]
    split <;> trivial
  · by_cases hempty : b.toNat / hiddenBit % 2048 = 0
    · unfold unpack
      simp only [if_neg (mt (unpackExponent_full_iff b).1 hfull),
        if_pos ((unpackExponent_empty_iff b).2 hempty)]
      split
      · trivial
      · refine ⟨?_, ?_, .inr ?_⟩
        · rw [toNat_unpackMantissa]
          omega
        · rw [toNat_unpackExponent, hempty]
          decide
        · rw [toNat_unpackExponent, hempty]
          rfl
    · rw [unpack_of_normal hempty hfull]
      refine ⟨by omega, ?_, .inl (Nat.le_add_left _ _)⟩
      unfold minExponent
      omega

/-- A full mantissa with a greater exponent stands for more than any mantissa does. -/
theorem mul_zpow_le_of_lt {k : Nat} {d e : Int} (hk : k < significandBound) (hm : hiddenBit ≤ m)
    (hlt : d < e) : (k : ℚ) * 2 ^ d ≤ m * 2 ^ e := by
  have hdouble : k ≤ m * 2 := by
    change k < hiddenBit + hiddenBit at hk
    omega
  calc (k : ℚ) * 2 ^ d ≤ (m * 2 : ℚ) * 2 ^ d := by
        refine mul_le_mul_of_nonneg_right ?_ (zpow_pos two_pos d).le
        exact_mod_cast hdouble
    _ = m * 2 ^ (d + 1) := by rw [mul_assoc, zpow_add_one₀ two_ne_zero, mul_comm (2 : ℚ)]
    _ ≤ m * 2 ^ e :=
        mul_le_mul_of_nonneg_left (zpow_le_zpow_right₀ one_le_two hlt) (Nat.cast_nonneg m)

/-- **The order of doubles is that of their values.** A finite double that is not below a positive
one in canonical form has at least its value. -/
theorem le_value_of_le {e : Int} {hm : 0 < m} (hx : x.toModel.unpack = .finite .positive m e hm)
    (hv : value? y = some v) (h : x ≤ y) : (m : ℚ) * 2 ^ e ≤ v := by
  have hle : x.toModel.unpack.le y.toModel.unpack = true := by
    change decide (x.toModel ≤ y.toModel) = true at h
    exact of_decide_eq_true h
  obtain ⟨hbound, hmin, -⟩ : Canonical (.finite .positive m e hm) := hx ▸ canonical_unpack _
  have hcanonical : Canonical y.toModel.unpack := canonical_unpack _
  rw [hx] at hle
  rcases hy : y.toModel.unpack with s | _ | s | ⟨s, k, d, hk⟩
  · rw [value?, toExact?_eq, hy] at hv
    cases hv
  · rw [value?, toExact?_eq, hy] at hv
    cases hv
  · rw [hy] at hle
    cases hle
  · rw [hy] at hle hcanonical
    obtain rfl : ((s.apply k : ℤ) : ℚ) * 2 ^ d = v :=
      Option.some.inj ((value?_of_unpack hy).symm.trans hv)
    obtain ⟨-, -, hfull⟩ := hcanonical
    cases s with
    | negative => cases hle
    | positive =>
      change ((compare e d).then (compare m k)).isLE = true at hle
      show (m : ℚ) * 2 ^ e ≤ ((k : ℤ) : ℚ) * 2 ^ d
      rw [Int.cast_natCast]
      rcases lt_trichotomy e d with hlt | heq | hgt
      · exact mul_zpow_le_of_lt hbound (hfull.resolve_right (by omega)) hlt
      · subst heq
        rw [Std.compare_self, Ordering.eq_then, Nat.isLE_compare] at hle
        refine mul_le_mul_of_nonneg_right ?_ (zpow_pos two_pos e).le
        exact_mod_cast hle
      · rw [Int.compare_eq_gt.2 hgt] at hle
        cases hle

/-! ### Whole numbers -/

theorem powerOfTwo_eq (k : Nat) : powerOfTwo k = 2 ^ k :=
  Nat.one_shiftLeft k

theorem mul_zpow_of_neg {m e : Int} (he : e < 0) :
    (m : ℚ) * 2 ^ e = m / ((2 ^ e.natAbs : ℕ) : ℚ) := by
  obtain ⟨k, rfl⟩ : ∃ k : ℕ, e = -k := ⟨e.natAbs, by omega⟩
  rw [Int.natAbs_neg, Int.natAbs_natCast, zpow_neg, zpow_natCast, Nat.cast_pow, Nat.cast_ofNat,
    div_eq_mul_inv]

theorem mul_zpow_of_nonneg {m e : Int} (he : ¬ e < 0) :
    (m : ℚ) * 2 ^ e = (m * (2 ^ e.natAbs : ℕ) : ℤ) := by
  obtain ⟨k, rfl⟩ : ∃ k : ℕ, e = k := ⟨e.natAbs, by omega⟩
  rw [Int.natAbs_natCast, zpow_natCast]
  push_cast
  rfl

/-- **The whole part** of a double that is not below zero is the floor of its value. -/
theorem truncate?_eq (hv : value? x = some v) (hnonneg : 0 ≤ v) : truncate? x = some ⌊v⌋ := by
  unfold value? at hv
  unfold truncate?
  rcases hexact : toExact? x with - | ⟨m, e⟩
  · rw [hexact] at hv
    cases hv
  · rw [hexact] at hv
    obtain rfl : (m : ℚ) * 2 ^ e = v := Option.some.inj hv
    refine congrArg some ?_
    show (if e < 0 then m.tdiv (powerOfTwo e.natAbs) else m * powerOfTwo e.natAbs) = _
    rw [powerOfTwo_eq]
    by_cases he : e < 0
    · have hm : 0 ≤ m := by
        exact_mod_cast nonneg_of_mul_nonneg_left hnonneg (zpow_pos (two_pos (α := ℚ)) e)
      rw [if_pos he, mul_zpow_of_neg he, Rat.floor_intCast_div_natCast,
        Int.tdiv_eq_ediv_of_nonneg hm]
    · rw [if_neg he, mul_zpow_of_nonneg he, Int.floor_intCast]

/-- A double that is not above a whole number has at most its value. -/
theorem value_le_of_compareInt? (hv : value? x = some v) {n : Int}
    (h : (compareInt? x n).any (· != .gt) = true) : v ≤ n := by
  unfold value? at hv
  unfold compareInt? at h
  rcases hexact : toExact? x with - | ⟨m, e⟩
  · rw [hexact] at hv
    cases hv
  · rw [hexact] at hv h
    obtain rfl : (m : ℚ) * 2 ^ e = v := Option.some.inj hv
    simp only [Option.any_some, bne_iff_ne, powerOfTwo_eq] at h
    by_cases he : e < 0
    · rw [if_pos he, ne_eq, Int.compare_eq_gt, not_lt] at h
      have hpos : (0 : ℚ) < ((2 ^ e.natAbs : ℕ) : ℚ) := Nat.cast_pos.2 (Nat.two_pow_pos _)
      rw [mul_zpow_of_neg he, div_le_iff₀ hpos]
      exact_mod_cast h
    · rw [if_neg he, ne_eq, Int.compare_eq_gt, not_lt] at h
      rw [mul_zpow_of_nonneg he]
      exact_mod_cast h

end ChipEight.Binary64
