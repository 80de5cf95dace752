/-!
# Fields of a text

A text is split into fields at a separating character. There is one field more than there are
separators, so an empty text has one empty field.

## Main definitions

* `Fields.split`: the fields of a text.
-/

namespace ChipEight.Fields

/-- The fields of a row of characters. -/
def splitChars (separator : Char) : List Char → List (List Char)
  | [] => [[]]
  | c :: cs =>
    if c = separator then [] :: splitChars separator cs
    else
      match splitChars separator cs with
      | [] => [[c]]
      | field :: fields => (c :: field) :: fields

/-- The fields of a text. -/
def split (separator : Char) (text : String) : List String :=
  (splitChars separator text.toList).map String.ofList

variable {separator : Char} {field : List Char}

/-- A row without separators is one field. -/
theorem splitChars_eq_singleton (h : separator ∉ field) : splitChars separator field = [field] := by
  induction field with
  | nil => rfl
  | cons c cs ih =>
    obtain ⟨hc, hcs⟩ := not_or.1 (mt List.mem_cons.2 h)
    rw [splitChars, if_neg (Ne.symm hc), ih hcs]

/-- The first field ends at the first separator. -/
theorem splitChars_append_cons (h : separator ∉ field) (rest : List Char) :
    splitChars separator (field ++ separator :: rest) = field :: splitChars separator rest := by
  induction field with
  | nil => exact if_pos rfl
  | cons c cs ih =>
    obtain ⟨hc, hcs⟩ := not_or.1 (mt List.mem_cons.2 h)
    rw [List.cons_append, splitChars, if_neg (Ne.symm hc), ih hcs]

end ChipEight.Fields
