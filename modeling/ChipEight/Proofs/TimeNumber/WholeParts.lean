import ChipEight.Pacing
import ChipEight.Proofs.TimeNumber.WholeDoubles

/-!
# Taking out the whole part

An account pays out the whole part of what is in it and keeps the rest. Over doubles the whole part
has to become a double again before it can be taken out, and a whole number can be too large for
that. It never is one that a double is the source of: the whole part of a finite double is at most
the greatest double, which bounds both the exponent and the significand that it is rounded to
(`Binary64.exists_ofInt?_of_truncate?`). So a budget whose credit stays finite pays out
(`CycleBudget.exists_grant`).
-/

namespace ChipEight

namespace Binary64

variable {n : Nat}

/-! ### The whole part of a double -/

/-- The significand of a finite double is below the bound of significands, and its exponent is at
most the greatest one. -/
theorem bounds_of_toExact? {x : Float} {m e : Int} (h : toExact? x = some (m, e)) :
    m.natAbs < significandBound ∧ e ≤ maxExponent := by
  have hbound : significandBound = hiddenBit + hiddenBit := rfl
  have hmin : minExponent = -1074 := rfl
  have hmax : maxExponent = 971 := rfl
  have hbit : 0 < hiddenBit := Nat.two_pow_pos 52
  have hfraction := Nat.mod_lt x.toBits.toNat hbit
  have hexponent := Nat.mod_lt (x.toBits.toNat / hiddenBit) (Nat.succ_pos 2047)
  have hsign (k : Nat) : ((if x.toBits.toNat < signBit then (1 : Int) else -1) * k).natAbs = k := by
    split <;> omega
  unfold toExact? at h
  dsimp only at h
  split at h
  · cases h
  · split at h
    · obtain ⟨rfl, rfl⟩ := Prod.mk.inj (Option.some.inj h)
      rw [hsign]
      omega
    · obtain ⟨rfl, rfl⟩ := Prod.mk.inj (Option.some.inj h)
      rw [hsign]
      omega

/-- The greatest finite double, which is a whole number. -/
def greatest : Nat :=
  (significandBound - 1) * powerOfTwo maxExponent.natAbs

theorem powerOfTwo_pos (k : Nat) : 0 < powerOfTwo k :=
  powerOfTwo_eq k ▸ Nat.two_pow_pos k

/-- A whole part is at most the greatest finite double. -/
theorem natAbs_le_of_truncate? {x : Float} {n : Int} (h : truncate? x = some n) :
    n.natAbs ≤ greatest := by
  obtain ⟨⟨m, e⟩, hexact, hn⟩ := Option.map_eq_some_iff.1 h
  obtain ⟨hm, he⟩ := bounds_of_toExact? hexact
  have hm' : m.natAbs ≤ significandBound - 1 := Nat.le_sub_one_of_lt hm
  dsimp only at hn
  split at hn
  · calc n.natAbs ≤ m.natAbs := by
          rw [← hn, Int.natAbs_tdiv]
          exact Nat.div_le_self _ _
      _ ≤ significandBound - 1 := hm'
      _ ≤ greatest := Nat.le_mul_of_pos_right _ (powerOfTwo_pos _)
  · have hpow : powerOfTwo e.natAbs ≤ powerOfTwo maxExponent.natAbs := by
      rw [powerOfTwo_eq, powerOfTwo_eq]
      exact Nat.pow_le_pow_right Nat.two_pos (by omega)
    rw [← hn, Int.natAbs_mul, Int.natAbs_natCast]
    exact Nat.mul_le_mul hm' hpow

/-- A significand has bits at every exponent up to the greatest one, where it must not be rounded up
to the bound. -/
theorem exists_magnitudeBits {m : Nat} {e : Int} (he : e ≤ maxExponent)
    (hm : e = maxExponent → m < significandBound) : ∃ bits, magnitudeBits m e = some bits := by
  unfold magnitudeBits
  split
  · exact ⟨_, rfl⟩
  · by_cases hfull : m = significandBound
    · have hlt : e ≠ maxExponent := fun heq ↦ (hm heq).ne hfull
      rw [if_pos hfull]
      dsimp only
      rw [if_neg (by omega)]
      exact ⟨_, rfl⟩
    · rw [if_neg hfull]
      dsimp only
      rw [if_neg (by omega)]
      exact ⟨_, rfl⟩

theorem roundQuotient_le {a b den : Nat} (hden : 0 < den) (h : a ≤ b * den) :
    roundQuotient a den ≤ b := by
  have hfloor : a / den ≤ b := Nat.div_le_of_le_mul (by rwa [Nat.mul_comm])
  unfold roundQuotient
  dsimp only
  split
  · exact hfloor
  · rename_i hup
    -- A quotient that is rounded up has a rest, so it is not the bound.
    refine Nat.lt_of_le_of_ne hfloor fun heq ↦ hup (.inl ?_)
    have hsplit := Nat.div_add_mod a den
    rw [heq, Nat.mul_comm] at hsplit
    omega

theorem exponentFor_le (h : n.log2 ≤ 1023) : exponentFor n 1 ≤ maxExponent := by
  have hone : Nat.log2 1 = 0 := rfl
  unfold exponentFor minExponent maxExponent
  rw [hone]
  dsimp only
  omega

theorem log2_le_of_le_greatest (hn : 0 < n) (h : n ≤ greatest) : n.log2 ≤ 1023 := by
  have hbound : significandBound = 2 ^ 53 := rfl
  have hlog : n.log2 < 53 + maxExponent.natAbs := by
    refine (Nat.log2_lt hn.ne').2 ?_
    calc n ≤ greatest := h
      _ < significandBound * powerOfTwo maxExponent.natAbs :=
        Nat.mul_lt_mul_of_pos_right (Nat.sub_one_lt (by decide)) (powerOfTwo_pos _)
      _ = 2 ^ (53 + maxExponent.natAbs) := by rw [powerOfTwo_eq, Nat.pow_add, hbound]
  exact Nat.lt_succ_iff.1 hlog

theorem roundAt_lt_of_le_greatest (h : n ≤ greatest) :
    roundAt n 1 maxExponent < significandBound := by
  have hround : roundAt n 1 maxExponent = roundQuotient n (powerOfTwo maxExponent.natAbs) := by
    unfold roundAt
    rw [if_neg (by decide), Nat.one_mul]
  rw [hround]
  exact Nat.lt_of_le_of_lt (roundQuotient_le (powerOfTwo_pos _) h) (Nat.sub_one_lt (by decide))

/-- **A whole number up to the greatest double** is rounded to a double. -/
theorem exists_ofInt?_of_le {n : Int} (h : n.natAbs ≤ greatest) : ∃ x, ofInt? n = some x := by
  obtain ⟨bits, hbits⟩ : ∃ bits, magnitudeBits (if n.natAbs = 0 then 0
      else roundAt n.natAbs 1 (exponentFor n.natAbs 1)) (exponentFor n.natAbs 1) = some bits := by
    rcases Nat.eq_zero_or_pos n.natAbs with hzero | hpos
    · rw [if_pos hzero]
      exact ⟨0, rfl⟩
    · rw [if_neg hpos.ne']
      refine exists_magnitudeBits (exponentFor_le (log2_le_of_le_greatest hpos h)) fun heq ↦ ?_
      rw [heq]
      exact roundAt_lt_of_le_greatest h
  unfold ofInt? ofRatio?
  dsimp only
  rw [hbits]
  exact ⟨_, rfl⟩

/-- The whole part of a double is rounded to a double. -/
theorem exists_ofInt?_of_truncate? {x : Float} {n : Int} (h : truncate? x = some n) :
    ∃ y, ofInt? n = some y :=
  exists_ofInt?_of_le (natAbs_le_of_truncate? h)

end Binary64

namespace Scalar

variable {t : Scalar} {cycles : Int}

/-- The whole part of a number can be taken out of it. -/
theorem exists_sub_wholePart (h : t.wholePart = .ok cycles) :
    ∃ rest, TimeNumber.sub t (TimeNumber.ofInt cycles) = .ok rest := by
  cases t with
  | whole n => exact ⟨_, rfl⟩
  | real x =>
    have htruncate : Binary64.truncate? x = some cycles := by
      unfold wholePart at h
      dsimp only at h
      rcases hx : Binary64.truncate? x with - | n
      · rw [hx] at h
        cases h
      · rw [hx] at h
        exact congrArg some (Except.ok.inj h)
    obtain ⟨y, hy⟩ := Binary64.exists_ofInt?_of_truncate? htruncate
    have hfloat : (whole cycles).toFloat = .ok y := by
      unfold toFloat
      dsimp only
      rw [hy]
    refine ⟨real (x - y), ?_⟩
    show (do return real (x - (← (whole cycles).toFloat))) = _
    rw [hfloat]
    rfl

end Scalar

namespace CycleBudget

/-- The credit with the cycles of an elapsed time added. -/
def due {α : Type} [TimeNumber α] (b : CycleBudget α) (elapsed : α) : Except Failure α :=
  TimeNumber.mul elapsed b.speed >>= TimeNumber.add b.credit

variable {b : CycleBudget Scalar} {elapsed total : Scalar} {v : ℚ}

/-- **A credit that is finite** and not below zero pays out its whole cycles. -/
theorem exists_grant (hdue : b.due elapsed = .ok total) (hv : total.value? = some v)
    (hnonneg : 0 ≤ v) :
    ∃ credit, TimeNumber.sub total (TimeNumber.ofInt ⌊v⌋) = .ok credit ∧
      b.grant elapsed = (.ok ⌊v⌋, { b with credit }) := by
  have hwhole : TimeNumber.whole total = .ok ⌊v⌋ := Scalar.wholePart_eq hv hnonneg
  obtain ⟨credit, hcredit⟩ := Scalar.exists_sub_wholePart hwhole
  have hsplit : { b with credit := total }.split = .ok (⌊v⌋, credit) := by
    unfold split
    dsimp only [bind, Except.bind]
    rw [hwhole]
    dsimp only
    rw [hcredit]
    rfl
  refine ⟨credit, hcredit, ?_⟩
  unfold due at hdue
  unfold grant
  rw [hdue]
  dsimp only
  rw [hsplit]

end CycleBudget

end ChipEight
