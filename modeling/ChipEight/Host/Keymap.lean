import ChipEight.Keypad
import ChipEight.Text.Fields
import ChipEight.Text.Lowercase
import ChipEight.Text.Numeral

/-!
# Keymaps

Which host code stands for which key of the keypad. A keymap is written as sixteen whole numbers
between commas, the codes of the keys `0` to `F` in turn, all different. Where codes are
characters, each is replaced by its lower-case form first, so that both cases of a letter act
alike.

## Main definitions

* `Keymap.parse`: reads a keymap.
* `Keymap.key?`: the key that a code stands for.
* `Keymap.lowerCode`: the lower-case form of a character code.
-/

namespace ChipEight

/-- The codes that stand for keys, in the order of the keys. -/
structure Keymap where
  /-- Each code with its key. -/
  entries : List (Int × Key)
  deriving DecidableEq, Repr

namespace Keymap

/-- The codes of the usual layout: the four rows of four keys at the left of the keyboard. -/
def usual : String :=
  "120,49,50,51,113,119,101,97,115,100,122,99,52,114,102,118"

/-- The key that a code stands for. -/
def key? (m : Keymap) (code : Int) : Option Key :=
  (m.entries.find? fun entry ↦ entry.1 == code).map Prod.snd

/-- The greatest code of a character. -/
def maxCharacter : Int := 0x10FFFF

/-- The lower-case form of a character code. A code beyond 32 bits, a code that no character has
and the one character whose lower-case form has two characters have none. -/
def lowerCode (code : Int) : Except Failure Int :=
  if code < -0x80000000 ∨ 0x80000000 ≤ code then .error .tooLarge
  else if code < 0 ∨ maxCharacter < code then .error (.noCharacter code)
  else
    match Lowercase.ofCode? code.toNat with
    | some lower => .ok lower
    | none => .error (.twoCharacters code)

/-- The code that a field stands for. -/
def fieldCode (lower : Bool) (field : String) : Except Failure Int :=
  match Numeral.read? .ten field with
  | none => .error (.keymap .notWhole)
  | some code => if lower then lowerCode code else .ok code

/-- Adds the code of a field for a key, unless the code already stands for one. -/
def addField (lower : Bool) (m : Keymap) (key : Key) (field : String) : Except Failure Keymap := do
  let code ← fieldCode lower field
  if (m.key? code).isSome then throw (.keymap .duplicate)
  return ⟨m.entries ++ [(code, key)]⟩

/-- Reads a keymap, replacing codes by their lower-case forms if they are characters. -/
def parse (lower : Bool) (text : String) : Except Failure Keymap :=
  let fields := Fields.split ',' text
  if fields.length ≠ 16 then .error (.keymap .wrongCount)
  else (Key.all.zip fields).foldlM (fun m (key, field) ↦ m.addField lower key field) ⟨[]⟩

end Keymap

end ChipEight
