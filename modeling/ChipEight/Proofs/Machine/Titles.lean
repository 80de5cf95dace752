import ChipEight.Machine
import ChipEight.Text.Fields
import Mathlib.Tactic.Common

/-!
# Titles read back

A report of performance leaves nothing behind but a title. `figures?` reads the two figures off a
text of that form, whoever made it: the words of the program's name and a dash, a count of frames
and one of instructions, each with its unit. Nothing gets lost on the way into the title
(`figures?_reportTitle`), since a count has no blank within it.
-/

namespace ChipEight.Machine

/-- The count that decimal digits stand for. -/
def count? (text : String) : Option Nat :=
  if text.toList ≠ [] ∧ text.toList.all Char.isDigit then some (Nat.ofDigitChars 10 text.toList 0)
  else none

/-- The frames and the instructions that a title reports, if it has the form of a report. -/
def figures? (title : String) : Option (Nat × Nat) :=
  match Fields.split ' ' title with
  | ["MonoChip", "Emulator", "-", frames, "FPS,", operations, "OPS"] => do
    return (← count? frames, ← count? operations)
  | _ => none

theorem isDigit_of_mem_repr {n : Nat} {c : Char} (h : c ∈ n.repr.toList) : c.isDigit = true :=
  Nat.isDigit_of_mem_toDigits (by decide) (by decide) (Nat.toList_repr ▸ h)

/-- The digits of a count are read back. -/
theorem count?_repr (n : Nat) : count? n.repr = some n := by
  have hdigits : n.repr.toList ≠ [] ∧ n.repr.toList.all Char.isDigit := by
    refine ⟨?_, List.all_eq_true.2 fun c hc ↦ isDigit_of_mem_repr hc⟩
    rw [Nat.toList_repr]
    exact Nat.toDigits_ne_nil
  unfold count?
  rw [if_pos hdigits, Nat.toList_repr, Nat.ofDigitChars_ten_toDigits]

theorem blank_not_mem_repr (n : Nat) : ' ' ∉ n.repr.toList :=
  fun h ↦ absurd (isDigit_of_mem_repr h) (by decide)

/-- The words of a title that reports performance. -/
theorem split_reportTitle (frames operations : Nat) :
    Fields.split ' ' (reportTitle frames operations) =
      ["MonoChip", "Emulator", "-", frames.repr, "FPS,", operations.repr, "OPS"] := by
  have hchars : (reportTitle frames operations).toList =
      "MonoChip".toList ++ ' ' :: ("Emulator".toList ++ ' ' :: ("-".toList ++ ' ' ::
        (frames.repr.toList ++ ' ' :: ("FPS,".toList ++ ' ' ::
          (operations.repr.toList ++ ' ' :: "OPS".toList))))) := by
    unfold reportTitle
    simp only [String.toList_append, List.append_assoc]
    rfl
  unfold Fields.split
  rw [hchars, Fields.splitChars_append_cons (by decide), Fields.splitChars_append_cons (by decide),
    Fields.splitChars_append_cons (by decide),
    Fields.splitChars_append_cons (blank_not_mem_repr frames),
    Fields.splitChars_append_cons (by decide),
    Fields.splitChars_append_cons (blank_not_mem_repr operations),
    Fields.splitChars_eq_singleton (by decide)]
  simp only [List.map_cons, List.map_nil, String.ofList_toList]

/-- **A title that reports performance tells both figures.** -/
theorem figures?_reportTitle (frames operations : Nat) :
    figures? (reportTitle frames operations) = some (frames, operations) := by
  unfold figures?
  rw [split_reportTitle]
  show (do return (← count? frames.repr, ← count? operations.repr)) = _
  rw [count?_repr, count?_repr]
  rfl

end ChipEight.Machine
