/-!
# Keystream blocks

The random words of the game are the keystream of the ChaCha cipher with eight rounds. Its state is
four rows of four words; a round adds, xors and rotates whole rows, and a diagonal round is a column
round on rows turned by one, two and three places. `keystream` is a function of key and block number
alone, so any block can be computed without the ones before it.
-/

namespace Masquerade.RandomWords

/-- Four words, handled lane by lane. -/
structure Row where
  w0 : UInt32
  w1 : UInt32
  w2 : UInt32
  w3 : UInt32
  deriving DecidableEq

namespace Row

/-- A binary operation in each lane. -/
def zipWith (f : UInt32 → UInt32 → UInt32) (a b : Row) : Row :=
  ⟨f a.w0 b.w0, f a.w1 b.w1, f a.w2 b.w2, f a.w3 b.w3⟩

instance : Add Row := ⟨zipWith (· + ·)⟩

/-- Every word rotated left by `n` bits, for `0 < n < 32`. -/
def rotate (a : Row) (n : UInt32) : Row :=
  let turn (w : UInt32) := (w <<< n) ||| (w >>> (32 - n))
  ⟨turn a.w0, turn a.w1, turn a.w2, turn a.w3⟩

/-- The words moved by one lane. -/
def turn (a : Row) : Row := ⟨a.w1, a.w2, a.w3, a.w0⟩

/-- The word in lane `i`, counted modulo four. -/
def lane (a : Row) (i : Nat) : UInt32 :=
  match i % 4 with
  | 0 => a.w0
  | 1 => a.w1
  | 2 => a.w2
  | _ => a.w3

end Row

/-- The sixteen words of a block. -/
structure Block where
  a : Row
  b : Row
  c : Row
  d : Row
  deriving DecidableEq

namespace Block

/-- One half of a quarter round in every column, with its two rotation distances. -/
def halfRound (s : Block) (first second : UInt32) : Block :=
  let a := s.a + s.b
  let d := (Row.zipWith (· ^^^ ·) s.d a).rotate first
  let c := s.c + d
  let b := (Row.zipWith (· ^^^ ·) s.b c).rotate second
  ⟨a, b, c, d⟩

/-- A quarter round in each of the four columns. -/
def columns (s : Block) : Block :=
  (s.halfRound 16 12).halfRound 8 7

/-- A quarter round in each of the four diagonals. -/
def diagonals (s : Block) : Block :=
  let t := columns ⟨s.a, s.b.turn, s.c.turn.turn, s.d.turn.turn.turn⟩
  ⟨t.a, t.b.turn.turn.turn, t.c.turn.turn, t.d.turn⟩

/-- Two rounds, repeated `n` times. -/
def rounds : Nat → Block → Block
  | 0, s => s
  | n + 1, s => rounds n s.columns.diagonals

/-- Word `i` of the block, counted row by row. -/
def word (s : Block) (i : Nat) : UInt32 :=
  match i / 4 % 4 with
  | 0 => s.a.lane i
  | 1 => s.b.lane i
  | 2 => s.c.lane i
  | _ => s.d.lane i

end Block

/-- The key of a stream: eight words. -/
structure Key where
  low : Row
  high : Row
  deriving DecidableEq

/-- The state before the first round: the constant of the cipher, the key, the block number in two
words and an empty nonce. -/
def Key.initialBlock (key : Key) (number : Nat) : Block where
  a := ⟨0x61707865, 0x3320646e, 0x79622d32, 0x6b206574⟩
  b := key.low
  c := key.high
  d := ⟨UInt32.ofNat number, UInt32.ofNat (number >>> 32), 0, 0⟩

/-- Keystream block `number`: eight rounds, added to the state before them. -/
def Key.keystream (key : Key) (number : Nat) : Block :=
  let start := key.initialBlock number
  let mixed := start.rounds 4
  ⟨start.a + mixed.a, start.b + mixed.b, start.c + mixed.c, start.d + mixed.d⟩

end Masquerade.RandomWords
