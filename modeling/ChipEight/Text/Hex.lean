/-!
# Signed hexadecimal text

Addresses, opcodes and registers are shown in lower-case hexadecimal, padded with zeros to a least
width. The sign of a negative number counts in that width, so the padded text of `-1` at width
four is `-001`.

## Main definitions

* `Hex.digits`: the digits of a natural number, most significant first.
* `Hex.padded`: the padded text of an integer.
-/

namespace ChipEight.Hex

/-- The hexadecimal digits of a natural number, most significant first and without leading
zeros; zero itself has one digit. -/
def digits (n : Nat) : List Char :=
  if n < 16 then [n.digitChar] else digits (n / 16) ++ [(n % 16).digitChar]

/-- Digits with zeros in front of them until there are at least `width` of them. -/
def zeroPadded (width : Nat) (ds : List Char) : List Char :=
  List.replicate (width - ds.length) '0' ++ ds

/-- The text of an integer with at least `width` characters, the sign of a negative one
included. -/
def padded (width : Nat) (n : Int) : String :=
  if n < 0 then String.ofList ('-' :: zeroPadded (width - 1) (digits n.natAbs))
  else String.ofList (zeroPadded width (digits n.natAbs))

/-- The two digits of a byte. -/
def byte (b : UInt8) : String :=
  padded 2 b.toNat

/-- The two digits of each byte of a block in turn. -/
def bytes (bs : List UInt8) : String :=
  String.join (bs.map byte)

theorem length_zeroPadded (width : Nat) (ds : List Char) :
    (zeroPadded width ds).length = max width ds.length := by
  simp only [zeroPadded, List.length_append, List.length_replicate]
  omega

end ChipEight.Hex
