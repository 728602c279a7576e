import TouchTracking.Binary.Double
import TouchTracking.Binary.Single

/-! JSON values to be written. Numbers keep the form they came in, and an object keeps the order of
its fields. -/
namespace TouchTracking

inductive Json
  | null
  | bool (value : Bool)
  | int (value : Int)
  | double (value : Binary.Double)
  | single (value : Binary.Single)
  | text (value : String)
  | list (items : List Json)
  | object (fields : List (String × Json))
  deriving Inhabited

def Json.texts (items : List String) : Json := .list (items.map .text)

end TouchTracking
