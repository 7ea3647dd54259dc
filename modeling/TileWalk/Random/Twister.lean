/-!
# The twister generator

A source of 32-bit words with a state of 624 words. A seed is spread over the whole state, and
every 624 words the state is stirred anew.
-/

namespace TileWalk.Random

/-- The words of the state and the place of the next one to be given out. -/
structure Twister where
  words : Array UInt32
  index : Nat

namespace Twister

/-- The number of words in the state. -/
def size : Nat := 624

/-- The word at a place of an array. -/
def wordAt (words : Array UInt32) (index : Nat) : UInt32 :=
  words[index]?.getD 0

/-- The state that grows from one word by a linear rule. -/
def expand (word : UInt32) : Array UInt32 :=
  (List.range (size - 1)).foldl (fun words index =>
    let last := wordAt words index
    words.push ((1812433253 : UInt32) * (last ^^^ (last >>> 30)) + UInt32.ofNat (index + 1))) #[word]

/-- The 32-bit digits of a number, least first; a zero has one digit. -/
def digits (number : Nat) : List UInt32 :=
  if number < UInt32.size then [UInt32.ofNat number]
  else UInt32.ofNat (number % UInt32.size) :: digits (number / UInt32.size)
termination_by number
decreasing_by
  simp only [UInt32.size] at *
  omega

/-- A pass over the state: at each place, counted round from 1, a word is made from the one before
it and stored. After the last place the first word becomes a copy of the last. -/
def stirPass (step : Nat → Nat → UInt32 → UInt32 → UInt32) (count : Nat) (start : Nat)
    (words : Array UInt32) : Array UInt32 × Nat :=
  (List.range count).foldl (fun (words, place) turn =>
    let previous := wordAt words (place - 1)
    let words := words.setIfInBounds place
      (step turn place (previous ^^^ (previous >>> 30)) (wordAt words place))
    if place + 1 ≥ size then (words.setIfInBounds 0 (wordAt words (size - 1)), 1)
    else (words, place + 1)) (words, start)

/-- The generator for a seed. The sign of the seed does not matter. -/
def ofSeed (seed : Int) : Twister :=
  let key := (digits seed.natAbs).toArray
  let mixKey := fun turn _ mixed word =>
    let place := turn % key.size
    (word ^^^ (mixed * 1664525)) + wordAt key place + UInt32.ofNat place
  let mixPlace := fun _ place mixed word =>
    (word ^^^ (mixed * 1566083941)) - UInt32.ofNat place
  let (keyed, place) := stirPass mixKey (max size key.size) 1 (expand 19650218)
  let (mixed, _) := stirPass mixPlace (size - 1) place keyed
  { words := mixed.setIfInBounds 0 0x80000000, index := size }

/-- The state for the next 624 words. -/
def refresh (words : Array UInt32) : Array UInt32 :=
  (List.range size).foldl (fun words place =>
    let joined := (wordAt words place &&& 0x80000000) |||
      (wordAt words ((place + 1) % size) &&& 0x7FFFFFFF)
    let twisted := wordAt words ((place + 397) % size) ^^^ (joined >>> 1)
    words.setIfInBounds place (if joined &&& 1 = 1 then twisted ^^^ 0x9908B0DF else twisted)) words

/-- Evens out the bits of a word of the state. -/
def temper (word : UInt32) : UInt32 :=
  let word := word ^^^ (word >>> 11)
  let word := word ^^^ ((word <<< 7) &&& 0x9D2C5680)
  let word := word ^^^ ((word <<< 15) &&& 0xEFC60000)
  word ^^^ (word >>> 18)

/-- The next word, and the generator after it. -/
def next (twister : Twister) : UInt32 × Twister :=
  if twister.index < size then
    (temper (wordAt twister.words twister.index), { twister with index := twister.index + 1 })
  else
    let words := refresh twister.words
    (temper (wordAt words 0), { words, index := 1 })

end Twister

end TileWalk.Random
