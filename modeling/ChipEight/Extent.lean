import ChipEight.Failure

/-!
# Extents

The lengths of blocks and texts that are made to measure. A length comes as any integer. One that
does not fit a signed word of 64 bits is too large, whatever its sign. Of the others, those below
zero are no length of a block, and those from the limit of the host on are more than it holds.

Filling a text up to a length below zero leaves the text as it is, so that a text's length has to
pass `Extent.check` alone.

## Main definitions

* `Extent.check`: what every length has to pass.
* `Extent.ofInt`: the number of items in a block of a given length.
* `Extent.Held`: which lengths a host with some limit holds.
-/

namespace ChipEight.Extent

/-- The least length that is too large for a signed word of 64 bits. -/
def bound : Int := 0x8000000000000000

/-- Whether a length fits a signed word of 64 bits. -/
def Fits (length : Int) : Prop :=
  -bound ≤ length ∧ length < bound

instance (length : Int) : Decidable (Fits length) :=
  inferInstanceAs (Decidable (_ ∧ _))

/-- The limit of a usual host. -/
def usualLimit : Int := 0x400000000

/-- Refuses a length that does not fit its word and one from the limit of the host on. -/
def check (limit length : Int) : Except Failure Unit :=
  if ¬ Fits length then .error .tooLarge
  else if limit ≤ length then .error .outOfMemory
  else .ok ()

/-- The number of items in a block of a given length. -/
def ofInt (limit length : Int) : Except Failure Nat := do
  check limit length
  if length < 0 then throw (.negativeLength length) else return length.toNat

/-- A host with some limit holds a length of zero or above: the length is below the limit, and it
fits its word. -/
def Held (limit length : Int) : Prop :=
  length < limit ∧ length < bound

instance (limit length : Int) : Decidable (Held limit length) :=
  inferInstanceAs (Decidable (_ ∧ _))

variable {limit length : Int}

/-! ### Which lengths pass -/

theorem check_of_held (nonneg : 0 ≤ length) (h : Held limit length) :
    check limit length = .ok () := by
  have hfits : Fits length := by
    simp only [Held, Fits, bound] at h ⊢
    omega
  rw [check, if_neg (not_not_intro hfits), if_neg (Int.not_le.2 h.1)]

theorem exists_check_of_not_held (h : ¬ Held limit length) :
    ∃ failure, check limit length = .error failure := by
  by_cases hfits : Fits length
  · have hlimit : limit ≤ length := Int.not_lt.1 fun hlt ↦ h ⟨hlt, hfits.2⟩
    exact ⟨.outOfMemory, by rw [check, if_neg (not_not_intro hfits), if_pos hlimit]⟩
  · exact ⟨.tooLarge, by rw [check, if_pos hfits]⟩

/-- A length of zero or above that is held is the number of items. -/
theorem ofInt_of_held (nonneg : 0 ≤ length) (h : Held limit length) :
    ofInt limit length = .ok length.toNat := by
  rw [ofInt, check_of_held nonneg h]
  exact if_neg (Int.not_lt.2 nonneg)

/-- The number of items in a block is its length. -/
theorem eq_of_ofInt {size : Nat} (h : ofInt limit length = .ok size) : (size : Int) = length := by
  rcases hcheck : check limit length with failure | done
  · rw [ofInt, hcheck] at h
    cases h
  · rw [ofInt, hcheck] at h
    change (if length < 0 then _ else _) = _ at h
    split at h
    · cases h
    · cases h
      exact Int.toNat_of_nonneg (Int.not_lt.1 ‹_›)

/-- A length that is not held fails. -/
theorem exists_ofInt_of_not_held (h : ¬ Held limit length) :
    ∃ failure, ofInt limit length = .error failure := by
  obtain ⟨failure, hcheck⟩ := exists_check_of_not_held h
  rw [ofInt, hcheck]
  exact ⟨failure, rfl⟩

/-- A length below zero fails. -/
theorem exists_ofInt_of_neg (h : length < 0) : ∃ failure, ofInt limit length = .error failure := by
  rcases hcheck : check limit length with failure | done
  · exact ⟨failure, by rw [ofInt, hcheck]; rfl⟩
  · exact ⟨.negativeLength length, by rw [ofInt, hcheck]; exact if_pos h⟩

end ChipEight.Extent
