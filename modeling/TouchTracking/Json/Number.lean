import TouchTracking.Data.Basic
import TouchTracking.Decimal.Numeral

/-! What a JSON number stands for. A number without fraction and exponent is an integer if 64 bits can
hold it; a negative zero is not. Any other number is taken to a double by a short way: the leading
digits that 64 bits can hold become a double, which is then scaled by a power of ten. The result may
be off in the last place, and a number beyond the doubles stands for nothing. -/
namespace TouchTracking.Json

open Binary (Double)
open Decimal (digitValue digitsValue)

/-- A number as written; the fraction and the exponent, with its sign, may be missing. -/
structure NumberText where
  negative : Bool
  whole : List Char
  fraction : List Char
  exponent : Option (Bool × List Char)
  deriving DecidableEq, Repr

def wordLimit : Nat := 1 <<< 64

/-- Digits taken into a 64-bit word, and those that no longer fit. -/
def takeDigits (word : Nat) : List Char → Nat × List Char
  | [] => (word, [])
  | c :: rest =>
    let longer := 10 * word + digitValue c
    if longer < wordLimit then takeDigits longer rest else (word, c :: rest)

/-- The greatest power of ten that a double can hold. -/
def greatestPower : Nat := 308

def powerOfTen (n : Nat) : Double := Double.ofDecimal false 1 n

/-- Divides by the greatest power of ten until the exponent is in reach. -/
def scaleDown : (fuel : Nat) → Double → (exponent : Nat) → Double
  | 0, x, _ => x
  | fuel + 1, x, exponent =>
    if exponent ≤ greatestPower then x / powerOfTen exponent
    else if x.isZero then x
    else scaleDown fuel (x / powerOfTen greatestPower) (exponent - greatestPower)

/-- `word * 10 ^ exponent`, unless it is beyond the doubles. -/
def scale (word : Nat) (exponent : Int) : Option Double :=
  let x := Double.ofInt word
  if exponent < 0 then some (scaleDown 8 x exponent.natAbs)
  else if exponent ≤ greatestPower then
    let scaled := x * powerOfTen exponent.toNat
    match scaled.number with
    | .finite .. => some scaled
    | _ => none
  else if word = 0 then some x
  else none

def exponentLimit : Nat := 1 <<< 31

namespace NumberText

/-- The exponent that 32 bits with a sign can hold. -/
def saturated (exponent : Int) : Int := max (-exponentLimit) (min (exponentLimit - 1) exponent)

def magnitude? (number : NumberText) : Option Double :=
  let (word, dropped) := takeDigits 0 number.whole
  let (word, unread) := takeDigits word number.fraction
  let shift : Int := (dropped.length : Int) - (number.fraction.length - unread.length : Nat)
  match number.exponent with
  | none => scale word shift
  | some (down, digits) =>
    let exponent := digitsValue digits
    if exponentLimit ≤ exponent then
      if word ≠ 0 ∧ !down then none else some Double.zero
    else scale word (saturated (if down then shift - exponent else shift + exponent))

def double? (number : NumberText) : Option Double :=
  number.magnitude?.map fun x => if number.negative then -x else x

def isWhole (number : NumberText) : Bool := number.fraction.isEmpty && number.exponent.isNone

def integer? (number : NumberText) : Option Int :=
  if number.isWhole then
    let n := digitsValue number.whole
    if number.negative then if 0 < n ∧ n ≤ 1 <<< 63 then some (-(n : Int)) else none
    else if n < wordLimit then some n
    else none
  else none

def toData (number : NumberText) : Data :=
  match number.integer? with
  | some n => .int n
  | none =>
    match number.double? with
    | some x => .double x
    | none => .other

end NumberText
end TouchTracking.Json
