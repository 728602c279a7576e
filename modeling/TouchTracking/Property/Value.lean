import TouchTracking.Decimal.Layout
import TouchTracking.Decimal.Numeral
import TouchTracking.Json.Value
import TouchTracking.Text.Blank

/-! Values of properties and what can be read out of them. An integer is one that 64 bits with a sign
can hold. -/
namespace TouchTracking.Property

open Binary (Double)

inductive Kind
  | int
  | double
  | string
  | bool
  deriving DecidableEq, Repr

def Kind.label : Kind → String
  | .int => "int"
  | .double => "double"
  | .string => "string"
  | .bool => "bool"

def Kind.ofLabel? (label : String) : Option Kind :=
  [Kind.int, .double, .string, .bool].find? (·.label == label)

inductive Value
  | bool (value : Bool)
  | int (value : Int)
  | double (value : Double)
  | text (value : String)
  deriving DecidableEq, Repr

/-- Words for truth values, in letters of either case and with blanks around them. -/
def readBool (text : String) : Option Bool :=
  match String.ofList ((Text.trim text).toList.map Char.toLower) with
  | "true" | "1" | "yes" | "on" => some true
  | "false" | "0" | "no" | "off" => some false
  | _ => none

def boolText (value : Bool) : String := if value then "true" else "false"

namespace Value

def kind : Value → Kind
  | .bool _ => .bool
  | .int _ => .int
  | .double _ => .double
  | .text _ => .string

def toText : Value → String
  | .bool b => boolText b
  | .int n => toString n
  | .double x => Decimal.Layout.plain.writeDouble x
  | .text s => s

/-- The number to be compared with bounds. -/
def toNumber? : Value → Option Double
  | .int n => some (Double.ofInt n)
  | .double x => some x
  | _ => none

/-- Numbers lose their fraction and stop at the ends of the range; text that is not an integer
counts as zero. -/
def toInt : Value → Int
  | .int n => n
  | .double x => x.toInt64
  | .bool b => if b then 1 else 0
  | .text s => (Decimal.readInt64 (Text.trim s)).getD 0

def toDouble : Value → Double
  | .int n => Double.ofInt n
  | .double x => x
  | .bool b => Double.ofInt (if b then 1 else 0)
  | .text s => (Decimal.readDouble (Text.trim s)).getD Double.zero

/-- Any number but zero counts as true, also one that is not a number. -/
def toBool : Value → Bool
  | .bool b => b
  | .int n => n != 0
  | .double x => !x.isZero
  | .text s => (readBool s).getD false

def toJson : Value → Json
  | .bool b => .bool b
  | .int n => .int n
  | .double x => .double x
  | .text s => .text s

end Value
end TouchTracking.Property
