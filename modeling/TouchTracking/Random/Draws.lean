import TouchTracking.Random.ChaCha

/-! Drawing random values from a stream of 64-bit words. -/
namespace TouchTracking.Random

/-- A stream of words and the place of the next one. -/
structure Draws where
  words : Nat → UInt64
  position : Nat

namespace Draws

def ofSeed (seed : Nat) : Draws := ⟨(Key.ofSeed seed).word, 0⟩

def next (draws : Draws) : UInt64 × Draws :=
  (draws.words draws.position, { draws with position := draws.position + 1 })

/-- The offset below `size` that a word stands for, if the word is one of those that make all offsets
equally likely: the 128-bit product of word and size is split in its middle, and the lower half has
to lie in the zone that holds a whole number of copies of the range. -/
def offset? (size : Nat) (word : UInt64) : Option Nat :=
  let zone := (size <<< (63 - size.log2)) - 1
  let product := word.toNat * size
  if product % (1 <<< 64) ≤ zone then some (product >>> 64) else none

/-- An offset below `size`. At least every second word is fit, so the attempts never run out in
practice; if they did, the offset would be zero. -/
def offset (size : Nat) : (attempts : Nat) → Draws → Nat × Draws
  | 0, draws => (0, draws)
  | attempts + 1, draws =>
    let (word, draws) := draws.next
    match offset? size word with
    | some n => (n, draws)
    | none => offset size attempts draws

/-- An integer of the range, ends included. -/
def between (low high : Int) (draws : Draws) : Int × Draws :=
  let (n, draws) := draws.offset (high - low + 1).toNat 4096
  (low + n, draws)

/-- True for one word in five. -/
def oneInFive (draws : Draws) : Bool × Draws :=
  let (word, draws) := draws.next
  (word < 3689348814741910528, draws)

end Draws
end TouchTracking.Random
