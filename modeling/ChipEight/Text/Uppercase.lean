/-!
# Upper case of words

The upper-case forms that words of the Latin alphabet can have. Besides the lower-case letters,
two other letters have one of the letters `A` to `Z` as upper-case form, and the sharp s and the
ligatures of f and s have several of them. A character without an upper-case form in these letters
stands for itself here; it is part of no word of the alphabet, whichever form it has.

## Main definitions

* `Uppercase.word`: the upper-case form of a word.
-/

namespace ChipEight.Uppercase

/-- The characters beyond the alphabet whose upper-case form consists of letters of the alphabet. -/
def variants : List (Char × List Char) := [
  ('\u0131', ['I']), ('\u017f', ['S']), ('\u00df', ['S', 'S']), ('\ufb00', ['F', 'F']),
  ('\ufb01', ['F', 'I']), ('\ufb02', ['F', 'L']), ('\ufb03', ['F', 'F', 'I']),
  ('\ufb04', ['F', 'F', 'L']), ('\ufb05', ['S', 'T']), ('\ufb06', ['S', 'T'])]

/-- The upper-case form of a character. -/
def ofChar (c : Char) : List Char :=
  (variants.lookup c).getD [c.toUpper]

/-- The upper-case form of a word. -/
def word (text : String) : String :=
  String.ofList (text.toList.flatMap ofChar)

end ChipEight.Uppercase
