import TouchTracking.Decimal.Shortest
import TouchTracking.Binary.Double
import TouchTracking.Binary.Single

/-! Writing binary numbers as text. A layout decides where positional notation ends and how the rest
is written; the digits are always the shortest that read back. -/
namespace TouchTracking.Decimal

open Binary (Format Number Double Single)

structure Layout where
  /-- The powers of ten of the leading digit that are written without an exponent; all of them when
  absent. -/
  positional : Option (Int × Int)
  /-- Written after a number without a fraction in positional notation. -/
  wholeMark : String
  nanText : String
  infinityText : Bool → String
  tie : Tie

def digitText (digits : Nat) : String := toString digits

def zeros (count : Nat) : String := String.ofList (List.replicate count '0')

/-- The digits with a decimal point where the exponent puts it. -/
def positionalText (wholeMark : String) (decimal : Scientific) : String :=
  let text := digitText decimal.digits
  let point := (text.length : Int) + decimal.exponent
  if 0 ≤ decimal.exponent then text ++ zeros decimal.exponent.toNat ++ wholeMark
  else if point ≤ 0 then "0." ++ zeros (-point).toNat ++ text
  else
    let digits := text.toList
    String.ofList (digits.take point.toNat) ++ "." ++ String.ofList (digits.drop point.toNat)

/-- The digits with a point after the first, and the power of ten with its sign. -/
def exponentText (decimal : Scientific) : String :=
  let text := digitText decimal.digits
  let power := (text.length : Int) - 1 + decimal.exponent
  let mantissa := match text.toList with
    | first :: second :: rest => String.ofList (first :: '.' :: second :: rest)
    | _ => text
  let sign := if power < 0 then "-" else "+"
  s!"{mantissa}e{sign}{power.natAbs}"

namespace Layout

def magnitudeText (layout : Layout) (decimal : Scientific) : String :=
  let power := ((digitText decimal.digits).length : Int) - 1 + decimal.exponent
  match layout.positional with
  | none => positionalText layout.wholeMark decimal
  | some (least, greatest) =>
    if least ≤ power ∧ power ≤ greatest then positionalText layout.wholeMark decimal
    else exponentText decimal

def write (layout : Layout) (format : Format) (word : Nat) : String :=
  match format.decode word with
  | .nan => layout.nanText
  | .infinite negative => layout.infinityText negative
  | .finite negative significand exponent =>
    let sign := if negative then "-" else ""
    if significand = 0 then sign ++ "0" ++ layout.wholeMark
    else
      sign ++ layout.magnitudeText
        (shortest format layout.tie (word % format.signBit) significand exponent)

def writeDouble (layout : Layout) (x : Double) : String :=
  layout.write Format.double x.word.toNat

def writeSingle (layout : Layout) (x : Single) : String :=
  layout.write Format.single x.word.toNat

/-- The plain text of a value: never an exponent, and no mark on a whole number. -/
def plain : Layout where
  positional := none
  wholeMark := ""
  nanText := "NaN"
  infinityText negative := if negative then "-inf" else "inf"
  tie := .upward

end Layout
end TouchTracking.Decimal
