import TouchTracking.Binary.Double

/-! Reading numbers from text. An integer is an optional sign and digits. A real number may have a
point, with digits on at least one side of it, and a power of ten; infinities and NaN are words in
letters of either case. -/
namespace TouchTracking.Decimal

open Binary (Double)

def digitValue (c : Char) : Nat := c.toNat - '0'.toNat

/-- The number that a row of digits stands for. -/
def digitsValue (digits : List Char) : Nat :=
  digits.foldl (fun value c => 10 * value + digitValue c) 0

/-- At least one character, all of them ASCII digits. -/
def readDigits (characters : List Char) : Option Nat :=
  if characters ≠ [] ∧ characters.all Char.isDigit then some (digitsValue characters) else none

/-- The sign in front, and the rest. -/
def splitSign : List Char → Bool × List Char
  | '-' :: rest => (true, rest)
  | '+' :: rest => (false, rest)
  | characters => (false, characters)

def readInteger (text : String) : Option Int :=
  match splitSign text.toList with
  | (true, rest) => (readDigits rest).map fun (n : Nat) => -(n : Int)
  | (false, rest) => (readDigits rest).map Int.ofNat

/-- An integer that 64 bits with a sign can hold. -/
def readInt64 (text : String) : Option Int :=
  (readInteger text).filter fun n => -0x8000000000000000 ≤ n ∧ n < 0x8000000000000000

/-- A natural number below a limit; a plus sign may stand in front. -/
def readNatural (limit : Nat) (text : String) : Option Nat :=
  let digits := match text.toList with
    | '+' :: rest => rest
    | characters => characters
  (readDigits digits).filter (· < limit)

/-- A mantissa with the point taken out, and the power of ten that this costs. -/
def splitMantissa (characters : List Char) : Option (List Char × Nat) :=
  let whole := characters.takeWhile Char.isDigit
  match characters.dropWhile Char.isDigit with
  | [] => if whole = [] then none else some (whole, 0)
  | '.' :: fraction =>
    if fraction.all Char.isDigit ∧ (whole ≠ [] ∨ fraction ≠ []) then
      some (whole ++ fraction, fraction.length)
    else none
  | _ :: _ => none

def readExponent (characters : List Char) : Option Int :=
  match splitSign characters with
  | (true, rest) => (readDigits rest).map fun (n : Nat) => -(n : Int)
  | (false, rest) => (readDigits rest).map Int.ofNat

def isExponentMark (c : Char) : Bool := c == 'e' || c == 'E'

/-- An unsigned decimal number, taken to the nearest double. -/
def readMagnitude (negative : Bool) (characters : List Char) : Option Double := do
  let mantissa := characters.takeWhile (!isExponentMark ·)
  let (digits, places) ← splitMantissa mantissa
  let power ← match characters.dropWhile (!isExponentMark ·) with
    | [] => some 0
    | _ :: exponent => readExponent exponent
  return Double.ofDecimal negative (digitsValue digits) (power - places)

def readDouble (text : String) : Option Double :=
  let (negative, rest) := splitSign text.toList
  match String.ofList (rest.map Char.toLower) with
  | "inf" | "infinity" => some (Double.infinity negative)
  | "nan" => some Double.nan
  | _ => readMagnitude negative rest

end TouchTracking.Decimal
