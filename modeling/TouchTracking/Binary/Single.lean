import TouchTracking.Binary.Format

/-! Numbers held in 32-bit words. -/
namespace TouchTracking.Binary

structure Single where
  word : UInt32
  deriving DecidableEq, Repr, Inhabited

namespace Single

def number (x : Single) : Number := Format.single.decode x.word.toNat

def ofWord (word : Nat) : Single := ⟨UInt32.ofNat word⟩

def ofInt (n : Int) : Single := ofWord (Format.single.ofInt n)

def zero : Single := ⟨0⟩

def one : Single := ofInt 1

def div (x y : Single) : Single := ofWord (Format.single.div x.number y.number)

instance : Div Single := ⟨div⟩

def lt (x y : Single) : Bool := x.number.lt y.number

/-- The nearest number of the interval; a NaN stays as it is. -/
def clamp (x low high : Single) : Single :=
  if x.lt low then low else if high.lt x then high else x

end Single
end TouchTracking.Binary
