import ChipEight.Text.Hex
import ChipEight.Text.Numeral
import Mathlib.Tactic.Common

/-!
# Hexadecimal text read back

Padding does not hide a number: the zeros in front of its digits count for nothing, and a sign
stands in front of them. So a padded text, whatever its width, is a written form of the number that
it was made from (`readSigned?_padded`), and no two numbers share one (`padded_injective`).

A padded text holds nothing but digits and a sign (`not_mem_padded`), so a blank or the end of a
line tells where it ends. The digits of a byte are always two (`length_byte`), so the bytes of a
block need nothing between them (`bytes_injective`).
-/

namespace ChipEight.Hex

open Numeral

/-- The characters that no text of digits holds: those that separate, sign or mark a numeral. -/
def outsiders : List Char := [' ', '\n', '-', '+', '_', 'x', 'X']

/-- Characters are hexadecimal digits, at least one of them, of a number. -/
def Spells (cs : List Char) (n : Nat) : Prop :=
  ∃ ds : List Nat, ds ≠ [] ∧ (∀ d ∈ ds, d < 16) ∧ cs = ds.map Nat.digitChar ∧ ofDigits 16 ds = n

variable {c : Char} {cs : List Char} {d m n : Nat}

/-! ### Digits -/

theorem digitValue?_digitChar (h : d < 16) : digitValue? .sixteen d.digitChar = some d := by
  have hall : ∀ d < 16, digitValue? .sixteen (Nat.digitChar d) = some d := by decide
  exact hall d h

theorem digitChar_not_mem_outsiders (h : d < 16) : d.digitChar ∉ outsiders := by
  have hall : ∀ d < 16, Nat.digitChar d ∉ outsiders := by decide
  exact hall d h

theorem spells_digits (n : Nat) : Spells (digits n) n := by
  induction n using digits.induct with
  | case1 n hn =>
    rw [digits, if_pos hn]
    exact ⟨[n], by simp, by simpa using hn, rfl, by simp [ofDigits]⟩
  | case2 n hn ih =>
    obtain ⟨ds, -, hds, hcs, hvalue⟩ := ih
    have hlast : n % 16 < 16 := Nat.mod_lt n (by decide)
    refine ⟨ds ++ [n % 16], by simp, ?_, ?_, ?_⟩
    · intro d hd
      rcases List.mem_append.1 hd with hd | hd
      · exact hds d hd
      · exact List.mem_singleton.1 hd ▸ hlast
    · rw [digits, if_neg hn, hcs, List.map_append]
      rfl
    · rw [ofDigits, List.foldl_append]
      show 16 * ofDigits 16 ds + n % 16 = n
      rw [hvalue]
      exact Nat.div_add_mod n 16

/-- A zero in front of digits counts for nothing. -/
theorem Spells.zero_cons (h : Spells cs n) : Spells ('0' :: cs) n := by
  obtain ⟨ds, -, hds, rfl, rfl⟩ := h
  exact ⟨0 :: ds, by simp, by simpa using hds, rfl, rfl⟩

theorem Spells.zeroPadded (h : Spells cs n) (width : Nat) : Spells (zeroPadded width cs) n := by
  show Spells (List.replicate (width - cs.length) '0' ++ cs) n
  induction width - cs.length with
  | zero => exact h
  | succ k ih => exact ih.zero_cons

theorem Spells.not_mem (h : Spells cs n) (hc : c ∈ outsiders) : c ∉ cs := by
  obtain ⟨ds, -, hds, rfl, -⟩ := h
  intro hmem
  obtain ⟨d, hd, rfl⟩ := List.mem_map.1 hmem
  exact digitChar_not_mem_outsiders (hds d hd) hc

/-! ### Reading -/

/-- A digit with no underscore behind it is read by itself. -/
theorem digitRow?_cons_cons {value? : Char → Option Nat} {next : Char} (h : next ≠ '_') :
    digitRow? value? (c :: next :: cs) =
      (do let d ← value? c; let ds ← digitRow? value? (next :: cs); pure (d :: ds)) := by
  rw [digitRow?]
  · exact List.cons_ne_nil next cs
  · intro _ heq
    exact h (List.cons.inj heq).1

/-- A row of digits without underscores is read digit by digit. -/
theorem digitRow?_map {ds : List Nat} (hne : ds ≠ []) (hds : ∀ d ∈ ds, d < 16) :
    digitRow? (digitValue? .sixteen) (ds.map Nat.digitChar) = some ds := by
  induction ds with
  | nil => exact absurd rfl hne
  | cons d rest ih =>
    obtain ⟨hd, hrest⟩ := List.forall_mem_cons.1 hds
    match rest, ih, hrest with
    | [], _, _ =>
      show (digitValue? .sixteen d.digitChar).map ([·]) = _
      rw [digitValue?_digitChar hd]
      rfl
    | e :: rest, ih, hrest =>
      have hmark : e.digitChar ≠ '_' := by
        intro heq
        exact digitChar_not_mem_outsiders (hrest e List.mem_cons_self) (heq ▸ by decide)
      have hrow := ih (List.cons_ne_nil e rest) hrest
      rw [List.map_cons, List.map_cons, digitRow?_cons_cons hmark, digitValue?_digitChar hd,
        ← List.map_cons, hrow]
      rfl

/-- Digits carry no mark in front of them. -/
theorem Spells.dropMark (h : Spells cs n) : dropMark .sixteen cs = cs := by
  have hx : 'x' ∉ cs := h.not_mem (by decide)
  have hX : 'X' ∉ cs := h.not_mem (by decide)
  match cs, hx, hX with
  | [], _, _ => rfl
  | [c], _, _ => rfl
  | zero :: x :: rest, hx, hX =>
    have hlower : x ≠ 'x' := by rintro rfl; simp at hx
    have hupper : x ≠ 'X' := by rintro rfl; simp at hX
    simp [Numeral.dropMark, hlower, hupper]

theorem Spells.readDigits? (h : Spells cs n) : readDigits? .sixteen cs = some n := by
  have hmark := h.dropMark
  obtain ⟨ds, hne, hds, rfl, rfl⟩ := h
  rw [Numeral.readDigits?, hmark, digitRow?_map hne hds]
  rfl

/-- Digits without a sign are read as a number that is at least zero. -/
theorem Spells.readSigned? (h : Spells cs n) : readSigned? .sixteen cs = some (n : Int) := by
  have hminus : '-' ∉ cs := h.not_mem (by decide)
  have hplus : '+' ∉ cs := h.not_mem (by decide)
  rw [Numeral.readSigned?.eq_def]
  split
  · exact absurd List.mem_cons_self hminus
  · exact absurd List.mem_cons_self hplus
  · rw [h.readDigits?]
    rfl

/-- The sign of a number and its digits. -/
theorem padded_spells (width : Nat) (n : Int) : ∃ cs, Spells cs n.natAbs ∧
    (padded width n).toList = if n < 0 then '-' :: cs else cs := by
  have hdigits := spells_digits n.natAbs
  rw [padded]
  split
  · exact ⟨_, hdigits.zeroPadded (width - 1), by rw [String.toList_ofList]⟩
  · exact ⟨_, hdigits.zeroPadded width, by rw [String.toList_ofList]⟩

/-- **A padded text is read back** as the number that it was made from. -/
theorem readSigned?_padded (width : Nat) (n : Int) :
    readSigned? .sixteen (padded width n).toList = some n := by
  obtain ⟨cs, hspells, htext⟩ := padded_spells width n
  rw [htext]
  split
  · show (readDigits? .sixteen cs).map (fun n ↦ -(n : Int)) = some n
    rw [hspells.readDigits?]
    show some (-(n.natAbs : Int)) = some n
    congr 1
    omega
  · rw [hspells.readSigned?]
    congr 1
    omega

/-- **No two numbers share a padded text.** -/
theorem padded_injective (width : Nat) : Function.Injective (padded width) := by
  intro m n h
  have hread := readSigned?_padded width m
  rw [h, readSigned?_padded] at hread
  exact (Option.some.inj hread).symm

/-- A padded text holds a sign and digits only. -/
theorem not_mem_padded (width : Nat) (n : Int) (hc : c ∈ outsiders) (hsign : c ≠ '-') :
    c ∉ (padded width n).toList := by
  obtain ⟨cs, hspells, htext⟩ := padded_spells width n
  rw [htext]
  split
  · exact List.not_mem_cons_of_ne_of_not_mem hsign (hspells.not_mem hc)
  · exact hspells.not_mem hc

/-! ### Bytes -/

/-- The digits of a byte are two. -/
theorem length_byte (b : UInt8) : (byte b).toList.length = 2 := by
  have hb := b.toNat_lt
  have hdigits : (digits b.toNat).length ≤ 2 := by
    rw [digits]
    split
    · simp
    · rw [digits, if_pos (by omega)]
      simp
  rw [byte, padded, if_neg (by omega), String.toList_ofList, length_zeroPadded, Int.natAbs_natCast]
  omega

theorem byte_injective : Function.Injective byte := by
  intro b c h
  have hnat := padded_injective 2 h
  exact UInt8.toNat_inj.1 (Int.ofNat_inj.1 hnat)

theorem toList_bytes_cons (b : UInt8) (bs : List UInt8) :
    (bytes (b :: bs)).toList = (byte b).toList ++ (bytes bs).toList := by
  simp [bytes, String.toList_join]

theorem length_bytes (bs : List UInt8) : (bytes bs).toList.length = 2 * bs.length := by
  induction bs with
  | nil => rfl
  | cons b bs ih =>
    rw [toList_bytes_cons, List.length_append, length_byte, ih, List.length_cons]
    omega

/-- **The bytes of a block can be told apart**, though nothing stands between them. -/
theorem bytes_injective : Function.Injective bytes := by
  intro bs cs h
  have hchars : (bytes bs).toList = (bytes cs).toList := congrArg String.toList h
  have hlength : bs.length = cs.length := by
    have heq := congrArg List.length hchars
    rw [length_bytes, length_bytes] at heq
    omega
  clear h
  induction bs generalizing cs with
  | nil => exact (List.length_eq_zero_iff.1 hlength.symm).symm
  | cons b bs ih =>
    match cs, hlength with
    | c :: cs, hlength =>
      rw [toList_bytes_cons, toList_bytes_cons] at hchars
      obtain ⟨hfirst, hrest⟩ :=
        List.append_inj hchars ((length_byte b).trans (length_byte c).symm)
      rw [byte_injective (String.toList_inj.1 hfirst), ih hrest (Nat.succ.inj hlength)]

/-- The bytes of a block hold digits only. -/
theorem not_mem_bytes (bs : List UInt8) (hc : c ∈ outsiders) (hsign : c ≠ '-') :
    c ∉ (bytes bs).toList := by
  induction bs with
  | nil => simp [bytes]
  | cons b bs ih =>
    rw [toList_bytes_cons, List.mem_append, not_or]
    exact ⟨not_mem_padded 2 b.toNat hc hsign, ih⟩

end ChipEight.Hex
