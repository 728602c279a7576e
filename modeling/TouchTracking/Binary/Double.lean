import TouchTracking.Binary.Format

/-! Numbers held in 64-bit words. -/
namespace TouchTracking.Binary

structure Double where
  word : UInt64
  deriving DecidableEq, Repr, Inhabited

namespace Double

def number (x : Double) : Number := Format.double.decode x.word.toNat

def ofWord (word : Nat) : Double := ⟨UInt64.ofNat word⟩

def ofInt (n : Int) : Double := ofWord (Format.double.ofInt n)

def ofDecimal (negative : Bool) (digits : Nat) (exponent : Int) : Double :=
  ofWord (Format.double.ofDecimal negative digits exponent)

def nan : Double := ofWord Format.double.nanWord

def infinity (negative : Bool) : Double := ofWord (Format.double.infinityOf negative)

def zero : Double := ⟨0⟩

def neg (x : Double) : Double := ⟨x.word ^^^ 0x8000000000000000⟩

def add (x y : Double) : Double := ofWord (Format.double.add x.number y.number)

def mul (x y : Double) : Double := ofWord (Format.double.mul x.number y.number)

def div (x y : Double) : Double := ofWord (Format.double.div x.number y.number)

instance : Add Double := ⟨add⟩

instance : Mul Double := ⟨mul⟩

instance : Div Double := ⟨div⟩

instance : Neg Double := ⟨neg⟩

def lt (x y : Double) : Bool := x.number.lt y.number

def isZero (x : Double) : Bool := x.number.isZero

def isIntegral (x : Double) : Bool := x.number.isIntegral

def toInt64 (x : Double) : Int := x.number.toInt64

end Double
end TouchTracking.Binary
