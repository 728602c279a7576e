import TouchTracking.Json.Number

/-! Reading JSON. Text in strings may hold escapes that stand for halves of a character; a string in
which such a half has no partner is well-formed and yet no text. -/
namespace TouchTracking.Json

/-- A piece of a string: a character, or a 16-bit unit from an escape. -/
inductive Piece
  | char (c : Char)
  | unit (n : Nat)

def isHighHalf (n : Nat) : Bool := 0xD800 ≤ n && n < 0xDC00

def isLowHalf (n : Nat) : Bool := 0xDC00 ≤ n && n < 0xE000

/-- The text of a string, if every half has its partner. -/
def joinPieces : List Piece → Option (List Char)
  | [] => some []
  | .char c :: rest => (joinPieces rest).map (c :: ·)
  | .unit high :: .unit low :: rest =>
    if isHighHalf high then
      if isLowHalf low then
        let n := 0x10000 + (high - 0xD800) * 0x400 + (low - 0xDC00)
        (joinPieces rest).map (Char.ofNat n :: ·)
      else none
    else if isLowHalf high then none
    else (joinPieces (.unit low :: rest)).map (Char.ofNat high :: ·)
  | .unit n :: rest =>
    if isHighHalf n || isLowHalf n then none else (joinPieces rest).map (Char.ofNat n :: ·)

def hexValue? (c : Char) : Option Nat :=
  if c.isDigit then some (c.toNat - '0'.toNat)
  else if 'a' ≤ c ∧ c ≤ 'f' then some (c.toNat - 'a'.toNat + 10)
  else if 'A' ≤ c ∧ c ≤ 'F' then some (c.toNat - 'A'.toNat + 10)
  else none

def simpleEscape? : Char → Option Char
  | '"' => some '"'
  | '\\' => some '\\'
  | '/' => some '/'
  | 'b' => some '\x08'
  | 'f' => some '\x0c'
  | 'n' => some '\n'
  | 'r' => some '\r'
  | 't' => some '\t'
  | _ => none

/-- The pieces up to the closing quote, and what follows it. -/
def readString : List Char → Option (List Piece × List Char)
  | [] => none
  | '"' :: rest => some ([], rest)
  | '\\' :: 'u' :: a :: b :: c :: d :: rest => do
    let n := 0x1000 * (← hexValue? a) + 0x100 * (← hexValue? b) + 0x10 * (← hexValue? c) +
      (← hexValue? d)
    let (pieces, rest) ← readString rest
    return (.unit n :: pieces, rest)
  | '\\' :: c :: rest => do
    let c ← simpleEscape? c
    let (pieces, rest) ← readString rest
    return (.char c :: pieces, rest)
  | c :: rest => do
    if c.toNat < 0x20 then none
    let (pieces, rest) ← readString rest
    return (.char c :: pieces, rest)

def textOf (pieces : List Piece) : Option String := (joinPieces pieces).map String.ofList

def isSpace (c : Char) : Bool := c == ' ' || c == '\t' || c == '\n' || c == '\r'

def skipSpace (characters : List Char) : List Char := characters.dropWhile isSpace

/-- A row of digits, which may be empty, and what follows it. -/
def spanDigits (characters : List Char) : List Char × List Char := characters.span Char.isDigit

/-- The digits in front of the point, without needless zeros. -/
def readWhole (characters : List Char) : Option (List Char × List Char) :=
  match characters with
  | '0' :: rest => some (['0'], rest)
  | _ => match spanDigits characters with
    | ([], _) => none
    | row => some row

def readFraction : List Char → Option (List Char × List Char)
  | '.' :: rest => match spanDigits rest with
    | ([], _) => none
    | row => some row
  | rest => some ([], rest)

def readExponent (characters : List Char) : Option (Option (Bool × List Char) × List Char) :=
  match characters with
  | [] => some (none, [])
  | mark :: rest =>
    if Decimal.isExponentMark mark then
      let (down, rest) := Decimal.splitSign rest
      match spanDigits rest with
      | ([], _) => none
      | (digits, rest) => some (some (down, digits), rest)
    else some (none, characters)

def readNumber (characters : List Char) : Option (NumberText × List Char) := do
  let (negative, rest) := match characters with
    | '-' :: rest => (true, rest)
    | _ => (false, characters)
  let (whole, rest) ← readWhole rest
  let (fraction, rest) ← readFraction rest
  let (exponent, rest) ← readExponent rest
  return (⟨negative, whole, fraction, exponent⟩, rest)

/-- A string as data. -/
def stringData (pieces : List Piece) : Data :=
  match textOf pieces with
  | some text => .text text
  | none => .other

mutual

def readValue : (fuel : Nat) → List Char → Option (Data × List Char)
  | 0, _ => none
  | fuel + 1, characters =>
    match characters with
    | 'n' :: 'u' :: 'l' :: 'l' :: rest => some (.null, rest)
    | 't' :: 'r' :: 'u' :: 'e' :: rest => some (.bool true, rest)
    | 'f' :: 'a' :: 'l' :: 's' :: 'e' :: rest => some (.bool false, rest)
    | '"' :: rest => (readString rest).map fun (pieces, rest) => (stringData pieces, rest)
    | '[' :: rest => match skipSpace rest with
      | ']' :: rest => some (.list [], rest)
      | rest => (readItems fuel rest).map fun (items, rest) => (.list items, rest)
    | '\x7b' :: rest => match skipSpace rest with
      | '\x7d' :: rest => some (.record [], rest)
      | rest => (readFields fuel rest).map fun (fields, rest) => (.record fields, rest)
    | _ => (readNumber characters).map fun (number, rest) => (number.toData, rest)

/-- Items up to the closing bracket. -/
def readItems : (fuel : Nat) → List Char → Option (List Data × List Char)
  | 0, _ => none
  | fuel + 1, characters => do
    let (item, rest) ← readValue fuel (skipSpace characters)
    match skipSpace rest with
    | ',' :: rest =>
      let (items, rest) ← readItems fuel rest
      return (item :: items, rest)
    | ']' :: rest => return ([item], rest)
    | _ => none

/-- Fields up to the closing brace. -/
def readFields : (fuel : Nat) → List Char → Option (List (Option String × Data) × List Char)
  | 0, _ => none
  | fuel + 1, characters => do
    let '"' :: rest := skipSpace characters | none
    let (name, rest) ← readString rest
    let ':' :: rest := skipSpace rest | none
    let (value, rest) ← readValue fuel (skipSpace rest)
    match skipSpace rest with
    | ',' :: rest =>
      let (fields, rest) ← readFields fuel rest
      return ((textOf name, value) :: fields, rest)
    | '\x7d' :: rest => return ([(textOf name, value)], rest)
    | _ => none

end

/-- The value that a whole text holds. Every level of nesting and every part of a value costs at
least one character, so the fuel does not run out. -/
def read (text : String) : Option Data := do
  let characters := text.toList
  let (data, rest) ← readValue (2 * characters.length + 2) (skipSpace characters)
  if (skipSpace rest).isEmpty then some data else none

end TouchTracking.Json
