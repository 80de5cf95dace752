/-!
# Random bytes

The generator behind the random-number instruction: the twisted feedback register of 624 words of
32 bits, seeded from the words of an integer's magnitude. Random bytes are drawn from the nine
leading bits of its words; a draw of 256 or more is refused and the next word tried.

The register is pure data and drawing returns its successor, so a seed determines every byte.

## Main definitions

* `Twister.ofSeed`: the generator for a seed.
* `Twister.nextWord`: the next word of 32 bits.
* `Twister.nextByte`: the next random byte.
-/

namespace ChipEight

/-- A generator of random words. -/
structure Twister where
  /-- The register. -/
  words : Array UInt32
  /-- The number of words of the register that have been given out. -/
  used : Nat
  deriving DecidableEq, Repr

namespace Twister

/-- The number of words in the register. -/
def length : Nat := 624

/-- The distance over which the register feeds back. -/
def stride : Nat := 397

/-- The word of an array at an index, zero outside it. -/
def wordAt (words : Array UInt32) (i : Nat) : UInt32 :=
  words.getD i 0

/-- The mixture of a word that seeding multiplies. -/
def folded (word : UInt32) : UInt32 :=
  word ^^^ (word >>> 30)

/-- The register that a single word seeds. -/
def seededByWord (seed : UInt32) : Array UInt32 :=
  (List.range (length - 1)).foldl
    (fun words i ↦ words.push (1812433253 * folded (wordAt words i) + UInt32.ofNat (i + 1)))
    #[seed]

/-- One round of a seeding pass: `update` gives the new word at the index from the old one and the
mixture of the word before it. The first word follows the last, so the pass copies the last word
to the front when it comes round. -/
def seedRound (update : UInt32 → UInt32 → UInt32) :
    Array UInt32 × Nat → Array UInt32 × Nat
  | (words, i) =>
    let words := words.setIfInBounds i (update (wordAt words i) (folded (wordAt words (i - 1))))
    if i + 1 < length then (words, i + 1)
    else (words.setIfInBounds 0 (wordAt words (length - 1)), 1)

/-- The register that a key of words seeds. -/
def seededByKey (key : Array UInt32) : Array UInt32 :=
  let mixed := (List.range (max length key.size)).foldl
    (fun state round ↦
      let j := round % key.size
      seedRound (fun word before ↦ (word ^^^ (before * 1664525)) + wordAt key j + UInt32.ofNat j)
        state)
    (seededByWord 19650218, 1)
  let spread := (List.range (length - 1)).foldl
    (fun state _ ↦
      seedRound (fun word before ↦ (word ^^^ (before * 1566083941)) - UInt32.ofNat state.2) state)
    mixed
  spread.1.setIfInBounds 0 0x80000000

/-- The words of 32 bits of a natural number, the least significant first; zero has one. -/
def wordsOf (n : Nat) : List UInt32 :=
  if n < 0x100000000 then [UInt32.ofNat n] else UInt32.ofNat n :: wordsOf (n / 0x100000000)

/-- The generator for a seed, of which only the magnitude counts. -/
def ofSeed (seed : Int) : Twister :=
  ⟨seededByKey (wordsOf seed.natAbs).toArray, length⟩

/-- The register after all its words have been given out. -/
def twisted (words : Array UInt32) : Array UInt32 :=
  (List.range length).foldl
    (fun words i ↦
      let y := (wordAt words i &&& 0x80000000) ||| (wordAt words ((i + 1) % length) &&& 0x7fffffff)
      let feedback : UInt32 := if y &&& 1 = 0 then 0 else 0x9908b0df
      words.setIfInBounds i (wordAt words ((i + stride) % length) ^^^ (y >>> 1) ^^^ feedback))
    words

/-- The form in which a word of the register is given out. -/
def tempered (word : UInt32) : UInt32 :=
  let word := word ^^^ (word >>> 11)
  let word := word ^^^ ((word <<< 7) &&& 0x9d2c5680)
  let word := word ^^^ ((word <<< 15) &&& 0xefc60000)
  word ^^^ (word >>> 18)

/-- The next word of 32 bits and the generator after it. -/
def nextWord (g : Twister) : UInt32 × Twister :=
  let g := if g.used < length then g else ⟨twisted g.words, 0⟩
  (tempered (wordAt g.words g.used), { g with used := g.used + 1 })

/-- The nine leading bits of a word. -/
def leadingNine (word : UInt32) : Nat :=
  (word >>> 23).toNat

/-- The next random byte among a number of draws, zero if every draw is refused. -/
def nextByteWithin : Nat → Twister → UInt8 × Twister
  | 0, g => (0, g)
  | draws + 1, g =>
    let (word, g) := g.nextWord
    if leadingNine word < 256 then (UInt8.ofNat (leadingNine word), g)
    else nextByteWithin draws g

/-- The number of draws after which a byte is given up. Half of all words are refused, so the
register never comes near it. -/
def maxDraws : Nat := 20000

/-- The next random byte and the generator after it. -/
def nextByte (g : Twister) : UInt8 × Twister :=
  nextByteWithin maxDraws g

end Twister

end ChipEight
