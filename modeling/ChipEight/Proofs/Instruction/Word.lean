import ChipEight.Instruction
import Mathlib.Data.Fin.Basic

/-!
# The words of instructions

Decoding reads a word of sixteen bits as four nibbles. This module goes the other way: `toWord`
writes an instruction as the word with the nibbles that its pattern shows, so that the table of the
thirty-four patterns stands here once, free of the order in which decoding asks its questions.

The two directions fit together exactly. Every instruction decodes from its words
(`ofWord?_toWord`), and a word that decodes is a word of the instruction it stands for
(`toWord_of_ofWord?`), so a word is unknown exactly when it is no instruction's word
(`ofWord?_eq_none_iff`). The two shifts do not look at their third nibble, which is why `toWord`
takes a nibble to put there; it is the only freedom that a pattern leaves.
-/

namespace ChipEight

/-! ### Words by their nibbles -/

/-- The word of four nibbles, the first of which names the family. -/
def word (family x y n : Nibble) : Nat :=
  0x1000 * family.val + 0x100 * x.val + 0x10 * y.val + n.val

/-- The word of a family, a register and a byte. -/
def byteWord (family x : Nibble) (byte : UInt8) : Nat :=
  word family x (Nibble.ofNat (byte.toNat / 16)) (Nibble.ofNat byte.toNat)

/-- The word of a family and an address. -/
def addressWord (family : Nibble) (address : Address) : Nat :=
  word family (Nibble.ofNat (address.val / 256)) (Nibble.ofNat (address.val / 16))
    (Nibble.ofNat address.val)

section

variable (f x y n : Nibble) (byte : UInt8) (address : Address)

@[simp] theorem word_div_4096 : word f x y n / 4096 = f.val := by
  unfold word
  omega

@[simp] theorem ofNat_word_div_256 : Nibble.ofNat (word f x y n / 256) = x := by
  apply Fin.ext
  rw [Nibble.val_ofNat, word]
  omega

@[simp] theorem ofNat_word_div_16 : Nibble.ofNat (word f x y n / 16) = y := by
  apply Fin.ext
  rw [Nibble.val_ofNat, word]
  omega

@[simp] theorem ofNat_word : Nibble.ofNat (word f x y n) = n := by
  apply Fin.ext
  rw [Nibble.val_ofNat, word]
  omega

@[simp] theorem word_mod_16 : word f x y n % 16 = n.val := by
  unfold word
  omega

@[simp] theorem word_mod_256 : word f x y n % 256 = 16 * y.val + n.val := by
  unfold word
  omega

theorem byteWord_eq :
    byteWord f x byte = 0x1000 * f.val + 0x100 * x.val + byte.toNat := by
  have hbyte := byte.toNat_lt
  simp only [byteWord, word, Nibble.val_ofNat]
  omega

theorem addressWord_eq : addressWord f address = 0x1000 * f.val + address.val := by
  simp only [addressWord, word, Nibble.val_ofNat]
  omega

@[simp] theorem byteWord_div_4096 : byteWord f x byte / 4096 = f.val :=
  word_div_4096 ..

@[simp] theorem ofNat_byteWord_div_256 : Nibble.ofNat (byteWord f x byte / 256) = x :=
  ofNat_word_div_256 ..

@[simp] theorem ofNat_byteWord : UInt8.ofNat (byteWord f x byte) = byte := by
  have hbyte := byte.toNat_lt
  apply UInt8.toNat.inj
  rw [UInt8.toNat_ofNat', byteWord_eq]
  omega

@[simp] theorem addressWord_div_4096 : addressWord f address / 4096 = f.val :=
  word_div_4096 ..

@[simp] theorem ofNat_addressWord : Address.ofNat (addressWord f address) = address := by
  apply Fin.ext
  rw [Address.ofNat, addressWord_eq]
  show (0x1000 * f.val + address.val) % 4096 = address.val
  omega

end

namespace Instruction

/-! ### The patterns -/

/-- The word of an instruction. The third nibble of the two shifts is free, and `spare` fills
it. -/
def toWord (i : Instruction) (spare : Nibble) : Nat :=
  match i with
  | clearDisplay => word 0x0 0x0 0xE 0x0
  | callReturn => word 0x0 0x0 0xE 0xE
  | jump a => addressWord 0x1 a
  | call a => addressWord 0x2 a
  | skipIfByte x kk => byteWord 0x3 x kk
  | skipUnlessByte x kk => byteWord 0x4 x kk
  | skipIfEqual x y => word 0x5 x y 0x0
  | loadByte x kk => byteWord 0x6 x kk
  | addByte x kk => byteWord 0x7 x kk
  | copy x y => word 0x8 x y 0x0
  | or x y => word 0x8 x y 0x1
  | and x y => word 0x8 x y 0x2
  | xor x y => word 0x8 x y 0x3
  | add x y => word 0x8 x y 0x4
  | subtract x y => word 0x8 x y 0x5
  | shiftRight x => word 0x8 x spare 0x6
  | subtractFrom x y => word 0x8 x y 0x7
  | shiftLeft x => word 0x8 x spare 0xE
  | skipUnlessEqual x y => word 0x9 x y 0x0
  | pointAt a => addressWord 0xA a
  | jumpOffset a => addressWord 0xB a
  | random x kk => byteWord 0xC x kk
  | draw x y n => word 0xD x y n
  | skipIfHeld x => word 0xE x 0x9 0xE
  | skipUnlessHeld x => word 0xE x 0xA 0x1
  | readDelay x => word 0xF x 0x0 0x7
  | awaitKey x => word 0xF x 0x0 0xA
  | setDelay x => word 0xF x 0x1 0x5
  | setSound x => word 0xF x 0x1 0x8
  | addToIndex x => word 0xF x 0x1 0xE
  | pointAtGlyph x => word 0xF x 0x2 0x9
  | storeDecimal x => word 0xF x 0x3 0x3
  | storeUpTo x => word 0xF x 0x5 0x5
  | loadUpTo x => word 0xF x 0x6 0x5

/-- **Every word of an instruction decodes to it.** -/
theorem ofWord?_toWord (i : Instruction) (spare : Nibble) : ofWord? (i.toWord spare) = some i := by
  cases i
  case clearDisplay =>
    show ofWord? 0x00E0 = some clearDisplay
    rfl
  case callReturn =>
    show ofWord? 0x00EE = some callReturn
    rfl
  -- In the other families the nibbles can be read back one by one.
  all_goals simp [toWord, ofWord?]

/-- **A word that decodes is a word of its instruction**, with its own third nibble to spare. -/
theorem toWord_of_ofWord? {w : Nat} {i : Instruction} (h : ofWord? w = some i) :
    i.toWord (Nibble.ofNat (w / 16)) = w := by
  unfold ofWord? at h
  simp only at h
  -- The cases are the families in turn, from `h_1` for the family of digit zero.
  split at h
  case h_1 =>
    split at h <;> cases h <;> rfl
  case h_2 | h_3 | h_11 | h_12 =>
    cases h
    simp [toWord, addressWord_eq, Address.ofNat]
    omega
  case h_4 | h_5 | h_7 | h_8 | h_13 =>
    cases h
    simp [toWord, byteWord_eq]
    omega
  case h_6 | h_10 =>
    split at h <;> cases h
    simp [toWord, word]
    omega
  case h_9 | h_15 | h_16 =>
    split at h <;> cases h <;> simp [toWord, word] <;> omega
  case h_14 =>
    cases h
    simp [toWord, word]
    omega
  case h_17 => cases h

/-- A word stands for an instruction exactly when it is one of that instruction's words. -/
theorem ofWord?_eq_some_iff {w : Nat} {i : Instruction} :
    ofWord? w = some i ↔ ∃ spare, i.toWord spare = w := by
  constructor
  · intro h
    exact ⟨_, toWord_of_ofWord? h⟩
  · rintro ⟨spare, rfl⟩
    exact ofWord?_toWord i spare

/-- A word is unknown exactly when it is the word of no instruction. -/
theorem ofWord?_eq_none_iff {w : Nat} :
    ofWord? w = none ↔ ∀ i spare, toWord i spare ≠ w := by
  constructor
  · rintro h i spare rfl
    rw [ofWord?_toWord] at h
    cases h
  · intro h
    rcases hw : ofWord? w with - | i
    · rfl
    · exact absurd (toWord_of_ofWord? hw) (h i _)

end Instruction

end ChipEight
