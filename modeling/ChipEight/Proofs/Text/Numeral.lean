import ChipEight.Text.Numeral
import Mathlib.Data.Nat.Digits.Lemmas

/-!
# The size of a number that is read

Whatever a text consists of besides digits (blanks, a sign, a mark, underscores), it has no more
digits than characters, and each digit is below the base. So a number read from a text of some
length is below that power of the base (`read?_lt`).
-/

namespace ChipEight.Numeral

variable {base : Base} {c : Char} {cs : List Char} {ds : List Nat} {d n : Nat}

theorem Base.one_lt_value (base : Base) : 1 < base.value := by
  cases base <;> decide

/-! ### Digits -/

theorem letterValue?_lt (h : letterValue? c = some d) : d < 16 := by
  unfold letterValue? at h
  split at h
  · rename_i hrange
    have hlast : c.toNat ≤ 'f'.toNat := hrange.2
    have hf : 'f'.toNat = 102 := rfl
    have ha : 'a'.toNat = 97 := rfl
    have hvalue := Option.some.inj h
    omega
  · split at h
    · rename_i hrange
      have hlast : c.toNat ≤ 'F'.toNat := hrange.2
      have hf : 'F'.toNat = 70 := rfl
      have ha : 'A'.toNat = 65 := rfl
      have hvalue := Option.some.inj h
      omega
    · cases h

/-- A digit is below its base. -/
theorem digitValue?_lt (h : digitValue? base c = some d) : d < base.value := by
  cases base with
  | ten => exact DecimalDigit.lt_ten_of_value? h
  | sixteen =>
    obtain hdecimal | ⟨-, hletter⟩ := Option.or_eq_some_iff.1 h
    · exact (DecimalDigit.lt_ten_of_value? hdecimal).trans (by decide)
    · exact letterValue?_lt hletter

/-- A digit in front of a row is read by itself. -/
theorem exists_of_digit_row {value? : Char → Option Nat} {row : Option (List Nat)}
    (h : (do let d ← value? c; let es ← row; pure (d :: es)) = some ds) :
    ∃ d es, value? c = some d ∧ row = some es ∧ ds = d :: es := by
  obtain ⟨d, hd, h⟩ := Option.bind_eq_some_iff.1 h
  obtain ⟨es, hes, h⟩ := Option.bind_eq_some_iff.1 h
  exact ⟨d, es, hd, hes, (Option.some.inj h).symm⟩

/-- A row of digits has no more digits than characters, and each is the value of a character. -/
theorem digitRow?_spec {value? : Char → Option Nat} (h : digitRow? value? cs = some ds) :
    ds.length ≤ cs.length ∧ ∀ d ∈ ds, ∃ c, value? c = some d := by
  fun_induction digitRow? value? cs generalizing ds with
  | case1 => cases h
  | case2 c =>
    obtain ⟨d, hd, rfl⟩ := Option.map_eq_some_iff.1 h
    exact ⟨Nat.le_refl 1, fun e he ↦ ⟨c, List.mem_singleton.1 he ▸ hd⟩⟩
  | case3 c rest ih =>
    -- The underscore is a character without a digit.
    obtain ⟨d, es, hd, hes, rfl⟩ := exists_of_digit_row h
    obtain ⟨hlength, hvalues⟩ := ih hes
    exact ⟨Nat.succ_le_succ (hlength.trans (Nat.le_succ _)),
      List.forall_mem_cons.2 ⟨⟨c, hd⟩, hvalues⟩⟩
  | case4 c rest _ _ ih =>
    obtain ⟨d, es, hd, hes, rfl⟩ := exists_of_digit_row h
    obtain ⟨hlength, hvalues⟩ := ih hes
    exact ⟨Nat.succ_le_succ hlength, List.forall_mem_cons.2 ⟨⟨c, hd⟩, hvalues⟩⟩

/-- The first digit of a row weighs most. -/
theorem ofDigits_eq (b : Nat) (ds : List Nat) : ofDigits b ds = Nat.ofDigits b ds.reverse := by
  rw [Nat.ofDigits_eq_foldr, List.foldr_reverse]
  simp only [ofDigits, Nat.cast_id, Nat.add_comm]

theorem ofDigits_lt (h : ∀ d ∈ ds, d < base.value) :
    ofDigits base.value ds < base.value ^ ds.length := by
  rw [ofDigits_eq, ← List.length_reverse]
  exact Nat.ofDigits_lt_base_pow_length base.one_lt_value fun d hd ↦ h d (List.mem_reverse.1 hd)

/-! ### What stands around the digits -/

theorem length_dropMark_le (base : Base) (cs : List Char) :
    (dropMark base cs).length ≤ cs.length := by
  unfold dropMark
  split
  · split
    · split <;> simp only [List.length_cons] <;> omega
    · exact Nat.le_refl _
  · exact Nat.le_refl _

theorem length_stripBoth_le (p : Char → Bool) (cs : List Char) :
    (stripBoth p cs).length ≤ cs.length := by
  have hfront := (List.dropWhile_sublist p (l := cs)).length_le
  have hback := (List.dropWhile_sublist p (l := (cs.dropWhile p).reverse)).length_le
  rw [List.length_reverse] at hback
  unfold stripBoth
  rw [List.length_reverse]
  exact hback.trans hfront

/-! ### Numbers -/

theorem readDigits?_lt (h : readDigits? base cs = some n) : n < base.value ^ cs.length := by
  unfold readDigits? at h
  split at h
  · rename_i ds hrow
    split at h
    · obtain ⟨hlength, hvalues⟩ := digitRow?_spec hrow
      have hdigits : ∀ d ∈ ds, d < base.value := fun d hd ↦ by
        obtain ⟨c, hc⟩ := hvalues d hd
        exact digitValue?_lt hc
      calc n = ofDigits base.value ds := (Option.some.inj h).symm
        _ < base.value ^ ds.length := ofDigits_lt hdigits
        _ ≤ base.value ^ cs.length :=
          Nat.pow_le_pow_right base.one_lt_value.le (hlength.trans (length_dropMark_le base cs))
    · cases h
  · cases h

/-- A number with a sign is a number without one, or what is below zero by that much. -/
theorem exists_of_readSigned? {v : Int} (h : readSigned? base cs = some v) :
    ∃ (digits : List Char) (n : Nat), readDigits? base digits = some n ∧
      digits.length ≤ cs.length ∧ (v = n ∨ v = -n) := by
  unfold readSigned? at h
  split at h
  · rename_i rest
    rcases hdigits : readDigits? base rest with - | n
    · rw [hdigits] at h
      cases h
    · rw [hdigits] at h
      exact ⟨rest, n, hdigits, Nat.le_succ _, .inr (Option.some.inj h).symm⟩
  · rename_i rest
    obtain ⟨n, hdigits, rfl⟩ := Option.map_eq_some_iff.1 h
    exact ⟨rest, n, hdigits, Nat.le_succ _, .inl rfl⟩
  · obtain ⟨n, hdigits, rfl⟩ := Option.map_eq_some_iff.1 h
    exact ⟨cs, n, hdigits, Nat.le_refl _, .inl rfl⟩

/-- **A number that is read** from a text is below the power of the base that has the length of the
text. -/
theorem read?_lt {text : String} {v : Int} (h : read? base text = some v) :
    v < (base.value : Int) ^ text.length := by
  obtain ⟨digits, n, hdigits, hsigned, hv⟩ := exists_of_readSigned? h
  have hlength : digits.length ≤ text.length :=
    (hsigned.trans (length_stripBoth_le ..)).trans_eq String.length_toList
  have hn : n < base.value ^ text.length :=
    (readDigits?_lt hdigits).trans_le (Nat.pow_le_pow_right base.one_lt_value.le hlength)
  have hle : v ≤ n := by omega
  exact hle.trans_lt (by exact_mod_cast hn)

end ChipEight.Numeral
