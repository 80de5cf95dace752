import ChipEight.Text.Hex
import ChipEight.Text.Printable

/-!
# Quoted text

Messages show a text that could not be used between quotes. The quotes are single unless the text
holds a single quote and no double one. The backslash and the quote in use are escaped by a
backslash; tab, newline and carriage return have letters of their own; every other character that
is not printable is shown by its code point in two, four or eight hexadecimal digits, whichever is
the first that fits.

## Main definitions

* `Quoted.render`: the quoted form of a text.
-/

namespace ChipEight.Quoted

/-- The quote in ordinary use. -/
def singleQuote : Char := '\x27'

/-- The quote around a text that holds single quotes alone. -/
def doubleQuote : Char := '\x22'

/-- The quote that surrounds a text. -/
def quoteFor (cs : List Char) : Char :=
  if cs.contains singleQuote && !cs.contains doubleQuote then doubleQuote else singleQuote

/-- The escape of a code point by its hexadecimal digits. -/
def codeEscape (code : Nat) : String :=
  if code < 0x100 then "\\x" ++ Hex.padded 2 code
  else if code < 0x10000 then "\\u" ++ Hex.padded 4 code
  else "\\U" ++ Hex.padded 8 code

/-- The quoted form of one character between the given quotes. -/
def renderChar (quote c : Char) : String :=
  if c = quote ∨ c = '\\' then String.ofList ['\\', c]
  else if c = '\t' then "\\t"
  else if c = '\n' then "\\n"
  else if c = '\r' then "\\r"
  else if Printable.isPrintable c then String.singleton c
  else codeEscape c.toNat

/-- The quoted form of a text. -/
def render (text : String) : String :=
  let quote := quoteFor text.toList
  String.singleton quote ++ String.join (text.toList.map (renderChar quote)) ++
    String.singleton quote

end ChipEight.Quoted
