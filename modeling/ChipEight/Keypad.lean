import ChipEight.Failure
import ChipEight.Nibble

/-!
# The keypad

Sixteen keys, of which each is held or not. A wait for a key needs a fresh press, not one of a key
that was held all along: latching marks every key held at that moment, and a marked key counts
again only once it has been released.

## Main definitions

* `Keypad.press`, `Keypad.release`: what the host does to a key.
* `Keypad.latch`: marks the held keys.
* `Keypad.firstFresh?`: the lowest held key that is not marked.
-/

namespace ChipEight

/-- The number of a key. -/
abbrev Key := Nibble

/-- The key with a given number, if there is one. -/
def Key.ofInt (key : Int) : Except Failure Key :=
  match Nibble.ofInt? key with
  | some key => .ok key
  | none => .error (.fault (.noSuchKey key))

/-- The keys in ascending order. -/
def Key.all : List Key :=
  List.finRange 16

/-- Which keys are held, and which of them were held at the last latching. -/
structure Keypad where
  /-- Whether each key is held. -/
  down : Vector Bool 16
  /-- Whether each key has been held since the last latching. -/
  latched : Vector Bool 16
  deriving DecidableEq, Repr

namespace Keypad

/-- The keypad with no key held. -/
def released : Keypad :=
  ⟨Vector.replicate 16 false, Vector.replicate 16 false⟩

/-- Whether a key is held. -/
def isDown (k : Keypad) (key : Key) : Bool :=
  k.down.get key

/-- Whether a key is marked. -/
def isLatched (k : Keypad) (key : Key) : Bool :=
  k.latched.get key

/-- Holds a key. A mark on it stays. -/
def press (k : Keypad) (key : Key) : Keypad :=
  { k with down := k.down.set key true }

/-- Lets a key go and removes its mark. -/
def release (k : Keypad) (key : Key) : Keypad :=
  ⟨k.down.set key false, k.latched.set key false⟩

/-- Marks exactly the keys held now. -/
def latch (k : Keypad) : Keypad :=
  { k with latched := k.down }

/-- The lowest held key that is not marked. -/
def firstFresh? (k : Keypad) : Option Key :=
  Key.all.find? fun key ↦ k.isDown key && !k.isLatched key

end Keypad

end ChipEight
