/-! Binary interchange formats for real numbers. A word is a sign bit, an exponent field and a
fraction field. Decoding gives the exact number that a word denotes; encoding takes the exact value
of an operation to the nearest word, and of two equally near to the one whose last bit is zero. -/
namespace TouchTracking.Binary

structure Format where
  fractionBits : Nat
  exponentBits : Nat

/-- What a word denotes: `± significand * 2 ^ exponent` when finite. -/
inductive Number
  | nan
  | infinite (negative : Bool)
  | finite (negative : Bool) (significand : Nat) (exponent : Int)
  deriving DecidableEq, Repr

/-- The nearest natural number to a quotient, the even one when two are equally near. -/
def nearestEven (numerator denominator : Nat) : Nat :=
  let quotient := numerator / denominator
  let doubled := 2 * (numerator % denominator)
  if doubled < denominator then quotient
  else if denominator < doubled then quotient + 1
  else quotient + quotient % 2

/-- The greatest `e` with `2 ^ e ≤ numerator / denominator`, both being positive. -/
def floorLog2 (numerator denominator : Nat) : Int :=
  let high := numerator.log2
  let low := denominator.log2
  if denominator <<< high ≤ numerator <<< low then (high : Int) - low else (high : Int) - low - 1

namespace Format

def single : Format := ⟨23, 8⟩

def double : Format := ⟨52, 11⟩

def signBit (format : Format) : Nat := 1 <<< (format.fractionBits + format.exponentBits)

/-- The word of positive infinity; every finite magnitude has a smaller word. -/
def infinityWord (format : Format) : Nat :=
  ((1 <<< format.exponentBits) - 1) <<< format.fractionBits

def nanWord (format : Format) : Nat := format.infinityWord + (1 <<< (format.fractionBits - 1))

/-- The exponent of the last place of the smallest magnitudes. -/
def lowestPlace (format : Format) : Int :=
  2 - (1 <<< (format.exponentBits - 1) : Nat) - format.fractionBits

def decode (format : Format) (word : Nat) : Number :=
  let negative := format.signBit ≤ word
  let magnitude := word % format.signBit
  let field := magnitude >>> format.fractionBits
  let fraction := magnitude % (1 <<< format.fractionBits)
  if format.infinityWord < magnitude then .nan
  else if magnitude = format.infinityWord then .infinite negative
  else if field = 0 then .finite negative fraction format.lowestPlace
  else .finite negative ((1 <<< format.fractionBits) + fraction) (format.lowestPlace + (field - 1))

def signed (format : Format) (negative : Bool) (magnitude : Nat) : Nat :=
  if negative then format.signBit + magnitude else magnitude

/-- The word nearest to a positive quotient. A carry out of the fraction runs into the exponent
field, which is the next place's first word. -/
def nearestMagnitude (format : Format) (numerator denominator : Nat) : Nat :=
  if numerator = 0 then 0
  else
    let place := max (floorLog2 numerator denominator - format.fractionBits) format.lowestPlace
    let significand :=
      nearestEven (numerator <<< (-place).toNat) (denominator <<< place.toNat)
    min (((place - format.lowestPlace).toNat <<< format.fractionBits) + significand)
      format.infinityWord

def ofRatio (format : Format) (negative : Bool) (numerator denominator : Nat) : Nat :=
  format.signed negative (format.nearestMagnitude numerator denominator)

/-- The nearest word to `significand * 2 ^ exponent`. -/
def ofScaled (format : Format) (negative : Bool) (significand : Nat) (exponent : Int) : Nat :=
  format.ofRatio negative (significand <<< exponent.toNat) (1 <<< (-exponent).toNat)

def ofInt (format : Format) (n : Int) : Nat := format.ofRatio (n < 0) n.natAbs 1

/-- The nearest word to `digits * 10 ^ exponent`. Magnitudes beyond every format are settled without
writing the power of ten out. -/
def ofDecimal (format : Format) (negative : Bool) (digits : Nat) (exponent : Int) : Nat :=
  if digits = 0 then format.signed negative 0
  else if 400 < exponent then format.signed negative format.infinityWord
  else if exponent + digits.log2 < -400 then format.signed negative 0
  else format.ofRatio negative (digits * Nat.pow 10 exponent.toNat) (Nat.pow 10 (-exponent).toNat)

def infinityOf (format : Format) (negative : Bool) : Nat :=
  format.signed negative format.infinityWord

def mul (format : Format) : Number → Number → Nat
  | .nan, _ | _, .nan => format.nanWord
  | .infinite a, .infinite b => format.infinityOf (a != b)
  | .infinite a, .finite b significand _ | .finite a significand _, .infinite b =>
    if significand = 0 then format.nanWord else format.infinityOf (a != b)
  | .finite a m e, .finite b n f => format.ofScaled (a != b) (m * n) (e + f)

def div (format : Format) : Number → Number → Nat
  | .nan, _ | _, .nan | .infinite _, .infinite _ => format.nanWord
  | .infinite a, .finite b _ _ => format.infinityOf (a != b)
  | .finite a _ _, .infinite b => format.signed (a != b) 0
  | .finite a m e, .finite b n f =>
    if n = 0 then
      if m = 0 then format.nanWord else format.infinityOf (a != b)
    else
      let shift := e - f
      format.ofRatio (a != b) (m <<< shift.toNat) (n <<< (-shift).toNat)

/-- The integer that a finite number is of `2 ^ place`, for a place not above its exponent. -/
def units (negative : Bool) (significand : Nat) (exponent place : Int) : Int :=
  let size : Int := (significand <<< (exponent - place).toNat : Nat)
  if negative then -size else size

def add (format : Format) : Number → Number → Nat
  | .nan, _ | _, .nan => format.nanWord
  | .infinite a, .infinite b => if a = b then format.infinityOf a else format.nanWord
  | .infinite a, .finite .. | .finite .., .infinite a => format.infinityOf a
  | .finite a m e, .finite b n f =>
    let place := min e f
    let sum := units a m e place + units b n f place
    if sum = 0 then format.signed (a && b) 0
    else format.ofScaled (sum < 0) sum.natAbs place

end Format

namespace Number

/-- The order of two numbers, if neither is a NaN; the two zeros are equal. -/
def compare? : Number → Number → Option Ordering
  | .nan, _ | _, .nan => none
  | .infinite a, .infinite b => some (compare b a)
  | .infinite a, .finite .. => some (if a then .lt else .gt)
  | .finite .., .infinite b => some (if b then .gt else .lt)
  | .finite a m e, .finite b n f =>
    let place := min e f
    some (compare (Format.units a m e place) (Format.units b n f place))

def lt (a b : Number) : Bool := a.compare? b == some .lt

def isZero : Number → Bool
  | .finite _ significand _ => significand == 0
  | _ => false

/-- The integer part, with the fraction dropped. -/
def truncated (negative : Bool) (significand : Nat) (exponent : Int) : Int :=
  let size : Int := ((significand <<< exponent.toNat) >>> (-exponent).toNat : Nat)
  if negative then -size else size

/-- Finite and without a fraction. -/
def isIntegral : Number → Bool
  | .finite _ significand exponent => significand % (1 <<< (-exponent).toNat) == 0
  | _ => false

/-- The integer part held in 64 bits with a sign: numbers beyond the range stop at its ends, and a
NaN gives zero. -/
def toInt64 : Number → Int
  | .nan => 0
  | .infinite negative => if negative then -0x8000000000000000 else 0x7fffffffffffffff
  | .finite negative significand exponent =>
    max (-0x8000000000000000) (min 0x7fffffffffffffff (truncated negative significand exponent))

end Number
end TouchTracking.Binary
