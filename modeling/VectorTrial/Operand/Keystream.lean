import VectorTrial.Operand.Source

/-!
# A seeded random source

The random source of a run that can be repeated: the keystream of a block function of twelve
rounds on sixteen words, under a key that is expanded from a seed of 64 bits. The words of the
stream are used in order and none is skipped.

## Main definitions

* `VectorTrial.Keystream` — a place in a keystream.
* `VectorTrial.Keystream.ofSeed` — the start of the keystream of a seed.
* `VectorTrial.Keystream.word32`, `VectorTrial.Keystream.word64` — the next words.
-/

namespace VectorTrial

namespace Keystream

/-! ### The block function -/

/-- The state of the block function. -/
abbrev Words := Vector UInt32 16

/-- A word rotated to the left. -/
def rotateLeft (x : UInt32) (count : UInt32) : UInt32 := (x <<< count) ||| (x >>> (32 - count))

/-- One word of the state is added to another, and a third is mixed with the sum and rotated. -/
def mix (s : Words) (a b d : Fin 16) (count : UInt32) : Words :=
  let sum := s[a] + s[b]
  (s.set a sum).set d (rotateLeft (s[d] ^^^ sum) count)

/-- The quarter of a round, on four words of the state. -/
def quarter (s : Words) (a b c d : Fin 16) : Words :=
  let s := mix s a b d 16
  let s := mix s c d b 12
  let s := mix s a b d 8
  mix s c d b 7

/-- A round over the columns of the state and a round over its diagonals. -/
def doubleRound (s : Words) : Words :=
  let s := quarter s 0 4 8 12
  let s := quarter s 1 5 9 13
  let s := quarter s 2 6 10 14
  let s := quarter s 3 7 11 15
  let s := quarter s 0 5 10 15
  let s := quarter s 1 6 11 12
  let s := quarter s 2 7 8 13
  quarter s 3 4 9 14

/-- The state from which the block of a key with a number is computed. -/
def initial (key : Vector UInt32 8) (number : UInt64) : Words :=
  let constants : Vector UInt32 4 := #v[0x61707865, 0x3320646e, 0x79622d32, 0x6b206574]
  let counter : Vector UInt32 4 := #v[number.toUInt32, (number >>> 32).toUInt32, 0, 0]
  constants ++ key ++ counter

/-- The block of a key with a number: six double rounds, added to where they started. -/
def block (key : Vector UInt32 8) (number : UInt64) : Words :=
  let start := initial key number
  let mixed := Nat.repeat doubleRound 6 start
  Vector.zipWith (· + ·) mixed start

/-! ### Keys from seeds -/

/-- The next state of the generator that expands seeds. -/
def seedStep (s : UInt64) : UInt64 := s * 6364136223846793005 + 11634580027462260723

/-- The word that a state of the generator yields: some of its middle bits, rotated to the right by
its highest bits. -/
def seedWord (s : UInt64) : UInt32 :=
  let x := (((s >>> 18) ^^^ s) >>> 27).toUInt32
  let count := (s >>> 59).toUInt32
  if count = 0 then x else rotateLeft x (32 - count)

/-- The state of the generator after some steps from a seed. -/
def seedState (seed : UInt64) (steps : Nat) : UInt64 := Nat.repeat seedStep steps seed

/-- The key of a seed. -/
def keyOfSeed (seed : UInt64) : Vector UInt32 8 :=
  Vector.ofFn fun i => seedWord (seedState seed (i.val + 1))

end Keystream

/-- **Keystreams.** A place in the keystream of a key: the words left of the current block, and the
number of the next block. -/
structure Keystream where
  key : Vector UInt32 8
  next : UInt64
  pending : List UInt32

namespace Keystream

/-- The start of the keystream of a seed. -/
def ofSeed (seed : UInt64) : Keystream := ⟨keyOfSeed seed, 0, []⟩

/-- The next word of 32 bits. -/
def word32 (k : Keystream) : UInt32 × Keystream :=
  match k.pending with
  | w :: rest => (w, { k with pending := rest })
  | [] =>
    match (block k.key k.next).toList with
    | w :: rest => (w, { k with next := k.next + 1, pending := rest })
    | [] => (0, k)

/-- The next word of 64 bits: two words of 32 bits, the low one first. -/
def word64 (k : Keystream) : UInt64 × Keystream :=
  let (low, k) := k.word32
  let (high, k) := k.word32
  (low.toUInt64 ||| (high.toUInt64 <<< 32), k)

/-- How many words are drawn for a pick before one is taken that is not quite fair. Each word is
fair with a chance of more than one half, so this is never reached. -/
def fairTries : Nat := 4096

/-- A number below a bound of at most 64 bits. A word of 64 bits is scaled to the bound; words
whose remainder would make some numbers more frequent than others are drawn again. -/
def below (bound : Nat) : Nat → Keystream → Nat × Keystream
  | 0, k => (0, k)
  | tries + 1, k =>
    let (word, k) := k.word64
    let scaled := word.toNat * bound
    let fair := bound <<< (63 - Nat.log2 bound) - 1
    if scaled % UInt64.size ≤ fair then (scaled / UInt64.size, k) else below bound tries k

instance : DrawSource Keystream where
  int8 k := (k.word32.1.toUInt8.toInt8, k.word32.2)
  int16 k := (k.word32.1.toUInt16.toInt16, k.word32.2)
  int32 k := (k.word32.1.toInt32, k.word32.2)
  int64 k := (k.word64.1.toInt64, k.word64.2)
  coin k := (k.word64.1 < 9223372036854775808, k.word64.2)
  pick bound positive k :=
    let (n, k) := below bound fairTries k
    (⟨n % bound, Nat.mod_lt _ positive⟩, k)

end Keystream

end VectorTrial
