import TouchTracking.Binary.Format

/-! The shortest decimal that reads back as a given binary number. For each count of digits in turn
the two neighbours of the exact value on that decimal grid are tried; the first count with a hit
wins, and of two hits the nearer. -/
namespace TouchTracking.Decimal

open Binary (Format Number)

/-- What to do when two shortest decimals are equally near. -/
inductive Tie
  | upward
  | even
  deriving DecidableEq, Repr

/-- `digits * 10 ^ exponent`. -/
structure Scientific where
  digits : Nat
  exponent : Int
  deriving DecidableEq, Repr

/-- A positive quotient of natural numbers. -/
structure Ratio where
  numerator : Nat
  denominator : Nat

def Ratio.ofBinary (significand : Nat) (exponent : Int) : Ratio :=
  ⟨significand <<< exponent.toNat, 1 <<< (-exponent).toNat⟩

/-- The quotient measured in units of a power of ten. -/
def Ratio.scale (ratio : Ratio) (power : Int) : Ratio :=
  ⟨ratio.numerator * Nat.pow 10 (-power).toNat, ratio.denominator * Nat.pow 10 power.toNat⟩

def Ratio.floor (ratio : Ratio) : Nat := ratio.numerator / ratio.denominator

/-- The count of digits in front of the decimal point; zero or negative below one tenth. -/
def Ratio.magnitude (ratio : Ratio) : Int :=
  let guess := (Binary.floorLog2 ratio.numerator ratio.denominator) * 1233 / 4096
  if 1 ≤ (ratio.scale (guess + 1)).floor then guess + 2
  else if 1 ≤ (ratio.scale guess).floor then guess + 1
  else guess

/-- Whether a decimal is taken to the given magnitude word. -/
def readsBack (format : Format) (word : Nat) (decimal : Scientific) : Bool :=
  format.ofDecimal false decimal.digits decimal.exponent == word

/-- The nearer of two neighbours on a grid. -/
def nearer (tie : Tie) (ratio : Ratio) (lower : Nat) : Nat :=
  let doubled := 2 * (ratio.numerator % ratio.denominator)
  if doubled < ratio.denominator then lower
  else if ratio.denominator < doubled then lower + 1
  else match tie with
    | .upward => lower + 1
    | .even => lower + lower % 2

/-- The decimal with this last place that reads back, if there is one. -/
def onGrid (format : Format) (tie : Tie) (word : Nat) (ratio : Ratio) (place : Int) :
    Option Scientific :=
  let scaled := ratio.scale place
  let lower := scaled.floor
  let below : Scientific := ⟨lower, place⟩
  let above : Scientific := ⟨lower + 1, place⟩
  match readsBack format word below, readsBack format word above with
  | true, true => some ⟨nearer tie scaled lower, place⟩
  | true, false => some below
  | false, true => some above
  | false, false => none

/-- Drops zeros at the end of the digits. -/
def Scientific.trimmed : (fuel : Nat) → Scientific → Scientific
  | 0, decimal => decimal
  | fuel + 1, ⟨digits, exponent⟩ =>
    if digits ≠ 0 ∧ digits % 10 = 0 then trimmed fuel ⟨digits / 10, exponent + 1⟩
    else ⟨digits, exponent⟩

/-- Seventeen digits tell all numbers of both formats apart. -/
def mostDigits : Nat := 17

/-- The shortest decimal of a positive finite magnitude. -/
def shortest (format : Format) (tie : Tie) (word : Nat) (significand : Nat) (exponent : Int) :
    Scientific :=
  let ratio := Ratio.ofBinary significand exponent
  let magnitude := ratio.magnitude
  let hit := (List.range mostDigits).findSome? fun (count : Nat) =>
    onGrid format tie word ratio (magnitude - count - 1)
  match hit with
  | some decimal => decimal.trimmed mostDigits
  | none => ⟨(ratio.scale (magnitude - mostDigits)).floor, magnitude - mostDigits⟩

end TouchTracking.Decimal
