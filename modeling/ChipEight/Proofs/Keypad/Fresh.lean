import ChipEight.Keypad
import Mathlib.Data.List.FinRange

/-!
# Fresh keys

A held key counts for a wait if it is not marked. Here the operations of the keypad are read through
`isDown` and `isLatched`, and `firstFresh?` is pinned down: it yields the lowest key that counts,
and nothing exactly when no key counts.

The marks never run ahead of the keys (`Keypad.Marked`): every operation keeps each marked key held.
-/

namespace ChipEight

/-- A table of sixteen entries after one of them was replaced. -/
theorem Nibble.get_set {β : Type} (table : Vector β 16) (i j : Nibble) (entry : β) :
    (table.set i entry).get j = if i = j then entry else table.get j := by
  show (table.set i.val entry)[j.val] = if i = j then entry else table[j.val]
  rw [Vector.getElem_set]
  simp only [Fin.ext_iff]

/-- A table of sixteen equal entries. -/
theorem Nibble.get_replicate {β : Type} (entry : β) (i : Nibble) :
    (Vector.replicate 16 entry).get i = entry := by
  show (Vector.replicate 16 entry)[i.val] = entry
  rw [Vector.getElem_replicate]

namespace Keypad

variable {k : Keypad} {key other : Key}

/-! ### The operations, key by key -/

theorem isDown_press :
    (k.press key).isDown other = if key = other then true else k.isDown other :=
  Nibble.get_set ..

theorem isLatched_press : (k.press key).isLatched other = k.isLatched other := rfl

theorem isDown_release :
    (k.release key).isDown other = if key = other then false else k.isDown other :=
  Nibble.get_set ..

theorem isLatched_release :
    (k.release key).isLatched other = if key = other then false else k.isLatched other :=
  Nibble.get_set ..

theorem isDown_latch : k.latch.isDown key = k.isDown key := rfl

theorem isLatched_latch : k.latch.isLatched key = k.isDown key := rfl

theorem isLatched_released : released.isLatched key = false :=
  Nibble.get_replicate ..

/-! ### Marked keys are held -/

/-- Every marked key is held. -/
def Marked (k : Keypad) : Prop :=
  ∀ key, k.isLatched key = true → k.isDown key = true

theorem marked_released : released.Marked := by
  intro key h
  rw [isLatched_released] at h
  cases h

theorem marked_latch (k : Keypad) : k.latch.Marked :=
  fun _ h ↦ h

theorem Marked.press (h : k.Marked) (key : Key) : (k.press key).Marked := by
  intro other hother
  rw [isDown_press]
  split
  · rfl
  · exact h other hother

theorem Marked.release (h : k.Marked) (key : Key) : (k.release key).Marked := by
  intro other hother
  rw [isLatched_release] at hother
  rw [isDown_release]
  split at hother
  · cases hother
  · rename_i hne
    rw [if_neg hne]
    exact h other hother

/-! ### The lowest fresh key -/

theorem firstFresh?_eq_some_iff :
    k.firstFresh? = some key ↔
      (k.isDown key = true ∧ k.isLatched key = false) ∧
        ∀ lower < key, ¬ (k.isDown lower = true ∧ k.isLatched lower = false) := by
  simp only [firstFresh?, Key.all, List.find?_eq_some_iff_getElem, Bool.and_eq_true,
    Bool.not_eq_true']
  constructor
  · rintro ⟨hkey, n, hn, hget, hbefore⟩
    rw [List.getElem_finRange] at hget
    have hval : n = key.val := congrArg Fin.val hget
    refine ⟨hkey, fun lower hlower hfresh ↦ ?_⟩
    have hlt : lower.val < n := hval ▸ hlower
    have hskipped := hbefore lower.val hlt
    rw [List.getElem_finRange] at hskipped
    change (k.isDown lower && !k.isLatched lower) = false at hskipped
    rw [hfresh.1, hfresh.2] at hskipped
    cases hskipped
  · rintro ⟨hkey, hlowest⟩
    refine ⟨hkey, key.val, by simp, by rw [List.getElem_finRange]; rfl, fun j hj ↦ ?_⟩
    rw [List.getElem_finRange]
    have hj' := hlowest ⟨j, by omega⟩ hj
    simpa using hj'

theorem firstFresh?_eq_none_iff :
    k.firstFresh? = none ↔ ∀ key, ¬ (k.isDown key = true ∧ k.isLatched key = false) := by
  simp [firstFresh?, Key.all]

end Keypad

end ChipEight
