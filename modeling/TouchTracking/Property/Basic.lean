import TouchTracking.Property.Value

/-! Typed properties. The kind of a property is settled when it is made; a written value is converted
to that kind or refused, and has to respect the bounds, the choices and the lock. -/
namespace TouchTracking

open Binary (Double)

structure Property where
  kind : Property.Kind
  value : Property.Value
  minimum : Option Double
  maximum : Option Double
  choices : Option (List String)
  readOnly : Bool
  description : String
  deriving DecidableEq, Repr

namespace Property

/-- Why a write is refused. -/
inductive WriteError
  | readOnly
  | unconvertible (value : Value) (kind : Kind)
  | belowMinimum (value minimum : Double)
  | aboveMaximum (value maximum : Double)
  | notAChoice (text : String) (choices : List String)
  deriving DecidableEq, Repr

def WriteError.message : WriteError → String
  | .readOnly => "property is read-only"
  | .unconvertible value kind =>
    s!"cannot convert {value.kind.label} value '{value.toText}' to {kind.label}"
  | .belowMinimum value minimum =>
    s!"value {Decimal.Layout.plain.writeDouble value} is below minimum " ++
      Decimal.Layout.plain.writeDouble minimum
  | .aboveMaximum value maximum =>
    s!"value {Decimal.Layout.plain.writeDouble value} is above maximum " ++
      Decimal.Layout.plain.writeDouble maximum
  | .notAChoice text choices => s!"'{text}' is not one of [" ++ ", ".intercalate choices ++ "]"

/-- A writable property without bounds, of the kind of its first value. -/
def ofValue (value : Value) : Property where
  kind := value.kind
  value
  minimum := none
  maximum := none
  choices := none
  readOnly := false
  description := ""

def ofInt (value : Int) : Property := ofValue (.int value)

def withRange (property : Property) (minimum maximum : Double) : Property :=
  { property with minimum := some minimum, maximum := some maximum }

def withMinimum (property : Property) (minimum : Double) : Property :=
  { property with minimum := some minimum }

def withChoices (property : Property) (choices : List String) : Property :=
  { property with choices := some choices }

def describedAs (property : Property) (description : String) : Property :=
  { property with description }

def setReadOnly (property : Property) (readOnly : Bool) : Property := { property with readOnly }

/-- The value as one of the given kind, if it can be taken for one. -/
def convert (kind : Kind) (value : Value) : Option Value :=
  match kind, value with
  | .int, .int n => some (.int n)
  | .int, .double x => if x.isIntegral then some (.int x.toInt64) else none
  | .int, .text s => (Decimal.readInt64 (Text.trim s)).map .int
  | .int, .bool _ => none
  | .double, .double x => some (.double x)
  | .double, .int n => some (.double (Double.ofInt n))
  | .double, .text s => (Decimal.readDouble (Text.trim s)).map .double
  | .double, .bool _ => none
  | .bool, .bool b => some (.bool b)
  | .bool, .int n => if n = 0 ∨ n = 1 then some (.bool (n == 1)) else none
  | .bool, .text s => (readBool s).map .bool
  | .bool, .double _ => none
  | .string, value => some (.text value.toText)

/-- The first bound or choice that a value of the property's kind violates. -/
def violation (property : Property) (value : Value) : Option WriteError :=
  let low := do
    let number ← value.toNumber?
    let minimum ← property.minimum
    if number.lt minimum then some (.belowMinimum number minimum) else none
  let high := do
    let number ← value.toNumber?
    let maximum ← property.maximum
    if maximum.lt number then some (.aboveMaximum number maximum) else none
  let choice := match property.choices, value with
    | some choices, .text s => if s ∈ choices then none else some (.notAChoice s choices)
    | _, _ => none
  low <|> high <|> choice

def set (property : Property) (value : Value) : Except WriteError Property :=
  if property.readOnly then .error .readOnly
  else match convert property.kind value with
    | none => .error (.unconvertible value property.kind)
    | some converted =>
      match property.violation converted with
      | some refusal => .error refusal
      | none => .ok { property with value := converted }

/-- Absent bounds and choices and an empty description are left out. -/
def toJson (property : Property) : Json :=
  .object <|
    [("type", .text property.kind.label), ("value", property.value.toJson)] ++
    (property.minimum.map fun x => ("min", Json.double x)).toList ++
    (property.maximum.map fun x => ("max", Json.double x)).toList ++
    (property.choices.map fun choices => ("choices", Json.texts choices)).toList ++
    [("readonly", .bool property.readOnly)] ++
    (if property.description = "" then [] else [("description", .text property.description)])

end Property
end TouchTracking
