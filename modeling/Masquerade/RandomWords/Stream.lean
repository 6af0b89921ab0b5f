import Masquerade.RandomWords.Block
import Masquerade.Single

/-!
# Random words

A `Stream` is a key and the number of words drawn so far. The word at each position is fixed by the
key (`Key.word`), so drawing does nothing but move on by one position (`Stream.next`). Every random
decision of the game is one draw of a number in `[0, 1)` from the upper 24 bits of one word
(`Stream.roll`).
-/

namespace Masquerade.RandomWords

/-! ## Keys from seeds -/

/-- One step of the generator that spreads a seed over a key. -/
def spread (s : UInt64) : UInt64 :=
  s * 6364136223846793005 + 11634580027462260723

/-- The word given out for a generator state: the state's upper bits folded and rotated right by an
amount that its top five bits choose. -/
def foldedWord (s : UInt64) : UInt32 :=
  let x := (((s >>> 18) ^^^ s) >>> 27).toUInt32
  let r := (s >>> 59).toUInt32
  (x >>> r) ||| (x <<< (32 - r))

/-- The generator state after `n` steps from `seed`. -/
def spreadTimes (seed : UInt64) : Nat → UInt64
  | 0 => seed
  | n + 1 => spread (spreadTimes seed n)

/-- The key of a seed: the words of its first eight generator states. -/
def Key.ofSeed (seed : UInt64) : Key :=
  let word (n : Nat) := foldedWord (spreadTimes seed n)
  ⟨⟨word 1, word 2, word 3, word 4⟩, ⟨word 5, word 6, word 7, word 8⟩⟩

/-- The word at position `i` of the key's stream. -/
def Key.word (key : Key) (i : Nat) : UInt32 :=
  (key.keystream (i / 16)).word (i % 16)

/-! ## Streams -/

/-- A source of random words with a record of how many were drawn. -/
structure Stream where
  key : Key
  drawn : Nat
  deriving DecidableEq

namespace Stream

/-- The stream of a seed, with nothing drawn yet. -/
def ofSeed (seed : UInt64) : Stream := ⟨.ofSeed seed, 0⟩

/-- The word that the next draw gives. -/
def peek (s : Stream) : UInt32 := s.key.word s.drawn

/-- Draws one word. -/
def next (s : Stream) : UInt32 × Stream := (s.peek, { s with drawn := s.drawn + 1 })

/-- Draws a number in `[0, 1)`: the upper 24 bits of one word as a binary fraction. -/
def roll (s : Stream) : Float32 × Stream :=
  (.ofScaled false (s.peek >>> 8).toNat (-24), { s with drawn := s.drawn + 1 })

end Stream

end Masquerade.RandomWords
