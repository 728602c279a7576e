import TouchTracking.Failure
import TouchTracking.Property.Basic

/-! The properties of a stage by name, in the order of the names. -/
namespace TouchTracking

structure PropertyBag where
  entries : List (String × Property)
  deriving DecidableEq, Repr

namespace PropertyBag

inductive BagError
  | unknown (name : String)
  | refused (name : String) (reason : Property.WriteError)
  deriving DecidableEq, Repr

def BagError.message : BagError → String
  | .unknown name => s!"unknown property '{name}'"
  | .refused name reason => s!"property '{name}': {reason.message}"

def BagError.failure (error : BagError) : Failure := ⟨.configuration, error.message⟩

def empty : PropertyBag := ⟨[]⟩

/-- Puts an entry in front of the first greater name, in place of one of the same name. -/
def insertSorted (name : String) (property : Property) :
    List (String × Property) → List (String × Property)
  | [] => [(name, property)]
  | (other, value) :: rest =>
    if name = other then (name, property) :: rest
    else if name < other then (name, property) :: (other, value) :: rest
    else (other, value) :: insertSorted name property rest

def register (bag : PropertyBag) (name : String) (property : Property) : PropertyBag :=
  ⟨insertSorted name property bag.entries⟩

def ofList (entries : List (String × Property)) : PropertyBag :=
  entries.foldl (fun bag entry => bag.register entry.1 entry.2) empty

def get? (bag : PropertyBag) (name : String) : Option Property := bag.entries.lookup name

def contains (bag : PropertyBag) (name : String) : Bool := (bag.get? name).isSome

/-- Replaces the property of one name. -/
def replace (bag : PropertyBag) (name : String) (property : Property) : PropertyBag :=
  ⟨bag.entries.map fun entry => if entry.1 = name then (name, property) else entry⟩

def set (bag : PropertyBag) (name : String) (value : Property.Value) : Except BagError PropertyBag :=
  match bag.get? name with
  | none => .error (.unknown name)
  | some property =>
    match property.set value with
    | .error reason => .error (.refused name reason)
    | .ok property => .ok (bag.replace name property)

def setReadOnly (bag : PropertyBag) (name : String) (readOnly : Bool) :
    Except BagError PropertyBag :=
  match bag.get? name with
  | none => .error (.unknown name)
  | some property => .ok (bag.replace name (property.setReadOnly readOnly))

def size (bag : PropertyBag) : Nat := bag.entries.length

def isEmpty (bag : PropertyBag) : Bool := bag.entries.isEmpty

def toJson (bag : PropertyBag) : Json :=
  .object (bag.entries.map fun entry => (entry.1, entry.2.toJson))

end PropertyBag
end TouchTracking
