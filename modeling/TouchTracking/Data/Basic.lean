import TouchTracking.Binary.Double

/-! What a text of settings says, whatever notation it is written in, and how records of settings are
read out of it. -/
namespace TouchTracking

open Binary (Double)

inductive Data
  | null
  | bool (value : Bool)
  | int (value : Int)
  | double (value : Double)
  | text (value : String)
  | list (items : List Data)
  /-- Fields in their order; a name that is no text is absent. -/
  | record (fields : List (Option String × Data))
  /-- Something well-formed that no setting can hold. -/
  | other
  deriving Inhabited

namespace Data

def toNatural? (limit : Nat) : Data → Option Nat
  | .int n => if 0 ≤ n ∧ n < limit then some n.toNat else none
  | _ => none

def toText? : Data → Option String
  | .text s => some s
  | _ => none

/-- Reads a value that may also be null. -/
def optional {α : Type} (read : Data → Option α) : Data → Option (Option α)
  | .null => some none
  | data => (read data).map some

/-- How a notation treats records. -/
structure Reading where
  /-- A field that is not asked for is an error. -/
  refusesUnknown : Bool
  /-- A list that stands for a record may go on after the last field. -/
  allowsExcess : Bool

/-- Whether a field may stand behind the fields before it: no name comes twice, and unknown names are
accepted only if the reading passes over them. -/
def accepts (reading : Reading) (names seen : List String) : Option String → Bool
  | none => false
  | some name => if name ∈ names then name ∉ seen else !reading.refusesUnknown

def fieldsAccepted (reading : Reading) (names : List String) :
    (seen : List String) → List (Option String × Data) → Bool
  | _, [] => true
  | seen, (name, _) :: rest =>
    accepts reading names seen name && fieldsAccepted reading names (name.toList ++ seen) rest

/-- The values of the named fields. A list stands for a record with its values in the order of the
names. -/
def fields? (reading : Reading) (names : List String) : Data → Option (List (Option Data))
  | .record fields =>
    if fieldsAccepted reading names [] fields then
      some (names.map fun name => fields.lookup (some name))
    else none
  | .list items =>
    if items.length = names.length ∨ reading.allowsExcess ∧ names.length ≤ items.length then
      some ((items.take names.length).map some)
    else none
  | _ => none

end Data
end TouchTracking
