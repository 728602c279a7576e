import TouchTracking.Data.Basic

/-! Tables of TOML while they are being put together. A table may come into being by a heading of its
own, on the way to a deeper heading, or by a key with dots; each of these restricts how the table may
be reached later, so that no table is written twice. -/
namespace TouchTracking.Toml

inductive Origin
  | heading
  | passage
  | dotted
  deriving DecidableEq, Repr

inductive Item
  | value (data : Data)
  | table (origin : Origin) (fields : List (String × Item))
  /-- Tables in a row, the latest first. -/
  | tables (latest : List (String × Item)) (earlier : List (List (String × Item)))

abbrev Fields := List (String × Item)

/-- Sets the item of a name, in its old place or else in the last. -/
def put (fields : Fields) (name : String) (item : Item) : Fields :=
  if (fields.lookup name).isSome then
    fields.map fun entry => if entry.1 = name then (name, item) else entry
  else fields ++ [(name, item)]

/-- Changes the table at the end of a path. Missing tables on the way come into being; a path within a
key may not lead through a table with a heading. -/
def alter (made : Origin) (change : Origin → Fields → Option Fields) :
    (path : List String) → Origin → Fields → Option Fields
  | [], origin, fields => change origin fields
  | name :: rest, _, fields => do
    match fields.lookup name with
    | none =>
      let inner ← alter made change rest made []
      return put fields name (.table made inner)
    | some (.table origin inner) =>
      if made = .dotted ∧ origin = .heading then none
      let inner ← alter made change rest origin inner
      return put fields name (.table origin inner)
    | some (.tables latest earlier) =>
      let latest ← alter made change rest .heading latest
      return put fields name (.tables latest earlier)
    | some (.value _) => none

/-- Adds a value under a name that is free. -/
def addValue (name : String) (data : Data) (fields : Fields) : Option Fields :=
  match fields.lookup name with
  | none => some (fields ++ [(name, .value data)])
  | some _ => none

/-- Adds a value under a key. A key with dots may only add to tables that such keys have made, and a
plain key only to others. -/
def addKey (path : List String) (name : String) (data : Data) (origin : Origin) (fields : Fields) :
    Option Fields :=
  alter .dotted (fun reached fields =>
    if (reached == .dotted) == path.isEmpty then none else addValue name data fields) path origin fields

/-- Adds a value under a key in the table with the given heading. -/
def addUnder (heading path : List String) (name : String) (data : Data) (root : Fields) :
    Option Fields :=
  alter .passage (addKey path name data) heading .heading root

/-- Opens a table; one that was only passed through before may still get its heading. -/
def openTable (path : List String) (name : String) (root : Fields) : Option Fields :=
  alter .passage (fun _ fields =>
    match fields.lookup name with
    | none => some (put fields name (.table .heading []))
    | some (.table .passage inner) => some (put fields name (.table .heading inner))
    | some _ => none) path .heading root

/-- Opens a further table of a row. -/
def openNext (path : List String) (name : String) (root : Fields) : Option Fields :=
  alter .passage (fun _ fields =>
    match fields.lookup name with
    | none => some (put fields name (.tables [] []))
    | some (.tables latest earlier) => some (put fields name (.tables [] (latest :: earlier)))
    | some _ => none) path .heading root

mutual

def Item.toData : Item → Data
  | .value data => data
  | .table _ fields => .record (fieldsData fields)
  | .tables latest earlier => .list ((.record (fieldsData latest) :: tablesData earlier).reverse)

def fieldsData : Fields → List (Option String × Data)
  | [] => []
  | (name, item) :: rest => (some name, item.toData) :: fieldsData rest

def tablesData : List Fields → List Data
  | [] => []
  | fields :: rest => .record (fieldsData fields) :: tablesData rest

end

end TouchTracking.Toml
