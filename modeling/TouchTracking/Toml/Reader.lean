import TouchTracking.Toml.Scalar
import TouchTracking.Toml.Table

/-! Reading TOML, line by line. -/
namespace TouchTracking.Toml

def isKeyChar (c : Char) : Bool := c.isAlphanum || c == '-' || c == '_'

/-- One part of a key. -/
def readKeyPart (characters : List Char) : Option (String × List Char) :=
  match characters with
  | '"' :: rest => (readBasic rest).map fun (text, rest) => (String.ofList text, rest)
  | '\'' :: rest => (readLiteral rest).map fun (text, rest) => (String.ofList text, rest)
  | _ => match characters.span isKeyChar with
    | ([], _) => none
    | (name, rest) => some (String.ofList name, rest)

/-- A key of no more than so many parts. -/
def readKeyWithin : (fuel : Nat) → Reader (List String × String)
  | 0, _ => none
  | fuel + 1, characters => do
    let (part, rest) ← readKeyPart (skipWs characters)
    match skipWs rest with
    | '.' :: rest =>
      let ((path, name), rest) ← readKeyWithin fuel rest
      return ((part :: path, name), rest)
    | rest => return (([], part), rest)

/-- Keys have fewer parts than this, and values are nested less deep. -/
def depthLimit : Nat := 80

/-- A key: its parts but the last, and the last. Blanks may stand around every part. -/
def readKey (characters : List Char) : Option ((List String × String) × List Char) :=
  readKeyWithin (depthLimit - 1) characters

/-- What follows a comment, if one stands in front. -/
def skipComment (characters : List Char) : List Char :=
  match characters with
  | '#' :: rest => rest.dropWhile isLineChar
  | _ => characters

/-- Skips a gap of no more than so many lines. -/
def skipGapWithin : (fuel : Nat) → List Char → List Char
  | 0, characters => characters
  | fuel + 1, characters =>
    let rest := skipComment (skipWs characters)
    match newline? rest with
    | some rest => skipGapWithin fuel rest
    | none => skipWs characters

/-- Skips blanks, line breaks, and comments that end in a line break. -/
def skipGap (characters : List Char) : List Char := skipGapWithin characters.length characters

mutual

/-- A value inside of which only so many levels of brackets may be open at a time. -/
def readValueWithin : (fuel depth : Nat) → Reader Data
  | 0, _, _ => none
  | fuel + 1, depth, characters =>
    match characters, depth with
    | '[' :: _, 0 | '\x7b' :: _, 0 => none
    | '[' :: rest, depth + 1 =>
      (readItems fuel depth rest).map fun (items, rest) => (.list items, rest)
    | '\x7b' :: rest, depth + 1 => match skipWs rest with
      | '\x7d' :: rest => some (.record [], rest)
      | rest =>
        (readPairs fuel depth [] rest).map fun (fields, rest) => (.record (fieldsData fields), rest)
    | _, _ => readScalar characters

/-- Items up to the closing bracket; a comma may stand behind the last. -/
def readItems : (fuel depth : Nat) → Reader (List Data)
  | 0, _, _ => none
  | fuel + 1, depth, characters =>
    match skipGap characters with
    | ']' :: rest => some ([], rest)
    | start => do
      let (item, rest) ← readValueWithin fuel depth start
      match skipGap rest with
      | ',' :: rest =>
        let (items, rest) ← readItems fuel depth rest
        return (item :: items, rest)
      | ']' :: rest => return ([item], rest)
      | _ => none

/-- Pairs of key and value on one line up to the closing brace. -/
def readPairs : (fuel depth : Nat) → Fields → Reader Fields
  | 0, _, _, _ => none
  | fuel + 1, depth, fields, characters => do
    let ((path, name), rest) ← readKey characters
    let rest ← expect '=' rest
    let (data, rest) ← readValueWithin fuel depth (skipWs rest)
    let fields ← addKey path name data .heading fields
    match skipWs rest with
    | ',' :: rest => readPairs fuel depth fields rest
    | '\x7d' :: rest => return (fields, rest)
    | _ => none

end

/-- Every level of nesting and every part of a value costs at least one character, so the fuel does
not run out. -/
def readValue (characters : List Char) : Option (Data × List Char) :=
  readValueWithin (2 * characters.length + 2) (depthLimit - 1) characters

/-- The end of a line, perhaps behind a comment. -/
def endLine (characters : List Char) : Option (List Char) :=
  match skipComment (skipWs characters) with
  | [] => some []
  | rest => newline? rest

/-- A text in the course of reading: the heading in force and all tables so far. -/
structure Draft where
  heading : List String
  root : Fields

def readHeading (draft : Draft) (characters : List Char) : Option (Draft × List Char) := do
  let ((path, name), rest) ← readKey characters
  let rest ← expect ']' rest
  return (⟨path ++ [name], ← openTable path name draft.root⟩, ← endLine rest)

def readRowHeading (draft : Draft) (characters : List Char) : Option (Draft × List Char) := do
  let ((path, name), rest) ← readKey characters
  let rest ← expect ']' (← expect ']' rest)
  return (⟨path ++ [name], ← openNext path name draft.root⟩, ← endLine rest)

def readPair (draft : Draft) (characters : List Char) : Option (Draft × List Char) := do
  let ((path, name), rest) ← readKey characters
  let rest ← expect '=' rest
  let (data, rest) ← readValue (skipWs rest)
  return ({ draft with root := ← addUnder draft.heading path name data draft.root }, ← endLine rest)

def readLine (draft : Draft) (characters : List Char) : Option (Draft × List Char) :=
  match characters with
  | '[' :: '[' :: rest => readRowHeading draft rest
  | '[' :: rest => readHeading draft rest
  | '#' :: _ | '\n' :: _ | '\r' :: _ => (endLine characters).map (draft, ·)
  | _ => readPair draft characters

/-- Every line costs at least one character. -/
def readDocument : (fuel : Nat) → Draft → List Char → Option Draft
  | 0, _, _ => none
  | fuel + 1, draft, characters =>
    match skipWs characters with
    | [] => some draft
    | rest => (readLine draft rest).bind fun (draft, rest) => readDocument fuel draft rest

/-- The record that a whole text holds; a byte order mark in front is passed over. -/
def read (text : String) : Option Data :=
  let characters := match text.toList with
    | '\uFEFF' :: rest => rest
    | characters => characters
  (readDocument (characters.length + 1) ⟨[], []⟩ characters).map fun draft =>
    .record (fieldsData draft.root)

end TouchTracking.Toml
