/-! The ChaCha block function with twelve rounds, as a source of 64-bit words. A state is four rows of
four 32-bit words; a round mixes the columns, and the diagonals are mixed by rotating the rows before
and after. -/
namespace TouchTracking.Random

structure Row where
  a : UInt32
  b : UInt32
  c : UInt32
  d : UInt32
  deriving DecidableEq, Repr

namespace Row

def zipWith (f : UInt32 → UInt32 → UInt32) (x y : Row) : Row := ⟨f x.a y.a, f x.b y.b, f x.c y.c, f x.d y.d⟩

def map (f : UInt32 → UInt32) (x : Row) : Row := ⟨f x.a, f x.b, f x.c, f x.d⟩

/-- Moves every word one place to the left, the first one to the end. -/
def turn (x : Row) : Row := ⟨x.b, x.c, x.d, x.a⟩

def toList (x : Row) : List UInt32 := [x.a, x.b, x.c, x.d]

end Row

def rotateLeft (bits : UInt32) (x : UInt32) : UInt32 := (x <<< bits) ||| (x >>> (32 - bits))

structure Block where
  first : Row
  second : Row
  third : Row
  fourth : Row
  deriving DecidableEq, Repr

namespace Block

/-- Adds the second row to the first and mixes the sum into the fourth. -/
def mixDown (bits : UInt32) (x : Block) : Block :=
  let first := x.first.zipWith (· + ·) x.second
  { x with first, fourth := (x.fourth.zipWith (· ^^^ ·) first).map (rotateLeft bits) }

/-- Adds the fourth row to the third and mixes the sum into the second. -/
def mixUp (bits : UInt32) (x : Block) : Block :=
  let third := x.third.zipWith (· + ·) x.fourth
  { x with third, second := (x.second.zipWith (· ^^^ ·) third).map (rotateLeft bits) }

def mixColumns (x : Block) : Block := mixUp 7 (mixDown 8 (mixUp 12 (mixDown 16 x)))

def toDiagonals (x : Block) : Block :=
  ⟨x.first, x.second.turn, x.third.turn.turn, x.fourth.turn.turn.turn⟩

def ofDiagonals (x : Block) : Block :=
  ⟨x.first, x.second.turn.turn.turn, x.third.turn.turn, x.fourth.turn⟩

def doubleRound (x : Block) : Block := ofDiagonals (mixColumns (toDiagonals (mixColumns x)))

def rounds : (count : Nat) → Block → Block
  | 0, x => x
  | count + 1, x => rounds count (doubleRound x)

def add (x y : Block) : Block :=
  ⟨x.first.zipWith (· + ·) y.first, x.second.zipWith (· + ·) y.second,
    x.third.zipWith (· + ·) y.third, x.fourth.zipWith (· + ·) y.fourth⟩

def toList (x : Block) : List UInt32 :=
  x.first.toList ++ x.second.toList ++ x.third.toList ++ x.fourth.toList

end Block

/-- The eight key words. -/
structure Key where
  low : Row
  high : Row
  deriving DecidableEq, Repr

/-- The words that open every state: "expand 32-byte k". -/
def opening : Row := ⟨0x61707865, 0x3320646e, 0x79622d32, 0x6b206574⟩

/-- The sixteen words of the block with the given number. -/
def Key.block (key : Key) (counter : Nat) : List UInt32 :=
  let counterRow : Row := ⟨UInt32.ofNat counter, UInt32.ofNat (counter >>> 32), 0, 0⟩
  let start : Block := ⟨opening, key.low, key.high, counterRow⟩
  (start.add (Block.rounds 6 start)).toList

/-- The 64-bit word with the given number: two words of the stream, the lower one first. -/
def Key.word (key : Key) (index : Nat) : UInt64 :=
  let words := (key.block (index / 8)).drop (2 * (index % 8))
  let low := words.headD 0
  let high := words.tail.headD 0
  (high.toUInt64 <<< 32) ||| low.toUInt64

/-- One step of the generator that stretches a seed, and the word that it puts out. -/
def stretch (state : UInt64) : UInt32 × UInt64 :=
  let state := state * 6364136223846793005 + 11634580027462260723
  let mixed := (((state >>> 18) ^^^ state) >>> 27).toUInt32
  let turn := (state >>> 59).toUInt32
  ((mixed >>> turn) ||| (mixed <<< ((32 - turn) % 32)), state)

def Row.ofSeed (state : UInt64) : Row × UInt64 :=
  let (a, state) := stretch state
  let (b, state) := stretch state
  let (c, state) := stretch state
  let (d, state) := stretch state
  (⟨a, b, c, d⟩, state)

def Key.ofSeed (seed : Nat) : Key :=
  let (low, state) := Row.ofSeed (UInt64.ofNat seed)
  ⟨low, (Row.ofSeed state).1⟩

end TouchTracking.Random
