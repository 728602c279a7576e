import TouchTracking.Data.Basic
import TouchTracking.Decimal.Numeral
import TouchTracking.Json.Reader

/-! Scalars of TOML: strings in four notations, numbers with underscores between digits, truth values
and moments in time. -/
namespace TouchTracking.Toml

open Binary (Double)
open Decimal (digitsValue)

/-- A reader takes something from the front of a text and leaves the rest. -/
abbrev Reader (α : Type) := List Char → Option (α × List Char)

def isWs (c : Char) : Bool := c == ' ' || c == '\t'

def skipWs (characters : List Char) : List Char := characters.dropWhile isWs

/-- A line break, if there is one in front. -/
def newline? : List Char → Option (List Char)
  | '\n' :: rest => some rest
  | '\r' :: '\n' :: rest => some rest
  | _ => none

/-- Any character but controls; a tab is no control here. -/
def isLineChar (c : Char) : Bool := c == '\t' || (0x20 ≤ c.toNat && c.toNat ≠ 0x7F)

/-- A row of hexadecimal digits of fixed length, as the character with that number. -/
def readCodePoint (length : Nat) (characters : List Char) : Option (Char × List Char) := do
  let digits := characters.take length
  if digits.length < length then none
  let values ← digits.mapM Json.hexValue?
  let n := values.foldl (fun n d => 16 * n + d) 0
  if n < 0xD800 ∨ (0xDFFF < n ∧ n < 0x110000) then
    return (Char.ofNat n, characters.drop length)
  else none

def simpleEscape? : Char → Option Char
  | 'b' => some '\x08'
  | 't' => some '\t'
  | 'n' => some '\n'
  | 'f' => some '\x0c'
  | 'r' => some '\r'
  | '"' => some '"'
  | '\\' => some '\\'
  | _ => none

/-- What stands behind a backslash. -/
def readEscape : Reader Char
  | 'u' :: rest => readCodePoint 4 rest
  | 'U' :: rest => readCodePoint 8 rest
  | c :: rest => (simpleEscape? c).map (·, rest)
  | [] => none

/-- A string on one line with escapes, with a bound on its length. -/
def readBasicWithin : (fuel : Nat) → Reader (List Char)
  | 0, _ => none
  | fuel + 1, characters => match characters with
    | [] => none
    | '"' :: rest => some ([], rest)
    | '\\' :: rest => do
      let (c, rest) ← readEscape rest
      let (text, rest) ← readBasicWithin fuel rest
      return (c :: text, rest)
    | c :: rest => do
      if !isLineChar c then none
      let (text, rest) ← readBasicWithin fuel rest
      return (c :: text, rest)

/-- A string on one line with escapes, behind its opening quote. -/
def readBasic (characters : List Char) : Option (List Char × List Char) :=
  readBasicWithin (characters.length + 1) characters

/-- A string on one line without escapes, behind its opening quote. -/
def readLiteral : Reader (List Char)
  | [] => none
  | '\'' :: rest => some ([], rest)
  | c :: rest => do
    if !isLineChar c then none
    let (text, rest) ← readLiteral rest
    return (c :: text, rest)

/-- Three quotes close a string of several lines; up to two more in front of them belong to it. -/
def closing? (quote : Char) (characters : List Char) : Option (List Char × List Char) :=
  let count := (characters.takeWhile (· == quote)).length
  if count < 3 then none
  else
    let kept := min (count - 3) 2
    some (List.replicate kept quote, characters.drop (kept + 3))

/-- All blanks and line breaks in front. -/
def skipLines (characters : List Char) : List Char :=
  characters.dropWhile fun c => isWs c || c == '\n' || c == '\r'

/-- Whether each carriage return belongs to a line break. -/
def breaksAreWhole : List Char → Bool
  | [] => true
  | '\r' :: rest => rest.head? == some '\n' && breaksAreWhole rest
  | _ :: rest => breaksAreWhole rest

/-- A string of several lines, with a bound on its length. -/
def readLinesWithin (escapes : Bool) (quote : Char) : (fuel : Nat) → Reader (List Char)
  | 0, _ => none
  | fuel + 1, characters =>
    match closing? quote characters with
    | some closed => some closed
    | none =>
      match newline? characters with
      | some rest => (readLinesWithin escapes quote fuel rest).map fun (text, rest) => ('\n' :: text, rest)
      | none =>
        match characters with
        | [] => none
        | c :: rest =>
          if escapes && c == '\\' then
            match newline? (skipWs rest) with
            | some after =>
              let skipped := after.takeWhile fun c => isWs c || c == '\n' || c == '\r'
              if breaksAreWhole skipped then readLinesWithin escapes quote fuel (skipLines after) else none
            | none => do
              let (c, rest) ← readEscape rest
              let (text, rest) ← readLinesWithin escapes quote fuel rest
              return (c :: text, rest)
          else if isLineChar c then
            (readLinesWithin escapes quote fuel rest).map fun (text, rest) => (c :: text, rest)
          else none

/-- A string of several lines, behind its opening quotes. A line break right behind them is
dropped. -/
def readLines (escapes : Bool) (quote : Char) (characters : List Char) :
    Option (List Char × List Char) :=
  readLinesWithin escapes quote (characters.length + 1) ((newline? characters).getD characters)

def readString (characters : List Char) : Option (List Char × List Char) :=
  match characters with
  | '"' :: '"' :: '"' :: rest => readLines true '"' rest
  | '\'' :: '\'' :: '\'' :: rest => readLines false '\'' rest
  | '"' :: rest => readBasic rest
  | '\'' :: rest => readLiteral rest
  | _ => none

/-- Further digits, each perhaps behind an underscore. -/
def readMoreDigits (isDigit : Char → Bool) : Reader (List Char)
  | [] => some ([], [])
  | '_' :: [] => none
  | '_' :: c :: rest =>
    if isDigit c then
      (readMoreDigits isDigit rest).map fun (digits, rest) => (c :: digits, rest)
    else none
  | c :: rest =>
    if isDigit c then
      (readMoreDigits isDigit rest).map fun (digits, rest) => (c :: digits, rest)
    else some ([], c :: rest)

/-- Digits with single underscores between them. -/
def readRow (isDigit : Char → Bool) : Reader (List Char)
  | [] => none
  | c :: rest =>
    if isDigit c then
      (readMoreDigits isDigit rest).map fun (digits, rest) => (c :: digits, rest)
    else none

/-- A decimal integer without needless zeros. -/
def readDecimal : Reader (List Char)
  | '0' :: rest => some (['0'], rest)
  | characters => readRow Char.isDigit characters

def digitIn (base : Nat) (c : Char) : Bool := (Json.hexValue? c).any (· < base)

def readBased (base : Nat) (characters : List Char) : Option (Int × List Char) :=
  (readRow (digitIn base) characters).map fun (digits, rest) =>
    (digits.foldl (fun n c => base * n + ((Json.hexValue? c).getD 0 : Nat)) (0 : Int), rest)

def readUnsized (characters : List Char) : Option (Int × List Char) :=
  match characters with
  | '0' :: 'x' :: rest => readBased 16 rest
  | '0' :: 'o' :: rest => readBased 8 rest
  | '0' :: 'b' :: rest => readBased 2 rest
  | _ =>
    let (negative, rest) := Decimal.splitSign characters
    (readDecimal rest).map fun (digits, rest) =>
      let n : Int := digitsValue digits
      (if negative then -n else n, rest)

/-- An integer that 64 bits with a sign can hold. -/
def readInteger (characters : List Char) : Option (Data × List Char) := do
  let (n, rest) ← readUnsized characters
  if -0x8000000000000000 ≤ n ∧ n < 0x8000000000000000 then return (.int n, rest) else none

def readPower (characters : List Char) : Option (Int × List Char) := do
  let (down, rest) := Decimal.splitSign characters
  let (digits, rest) ← readRow Char.isDigit rest
  let n : Int := digitsValue digits
  return (if down then -n else n, rest)

/-- Fraction digits and power of ten; at least one of the two has to be there. -/
def readTail (characters : List Char) : Option ((List Char × Int) × List Char) :=
  match characters with
  | '.' :: rest => do
    let (fraction, rest) ← readRow Char.isDigit rest
    match rest with
    | mark :: more =>
      if Decimal.isExponentMark mark then
        let (power, rest) ← readPower more
        return ((fraction, power), rest)
      else return ((fraction, 0), rest)
    | [] => return ((fraction, 0), [])
  | mark :: rest =>
    if Decimal.isExponentMark mark then (readPower rest).map fun (power, rest) => (([], power), rest)
    else none
  | [] => none

def readFloat (characters : List Char) : Option (Data × List Char) :=
  let (negative, rest) := Decimal.splitSign characters
  match rest with
  | 'i' :: 'n' :: 'f' :: rest => some (.double (Double.infinity negative), rest)
  | 'n' :: 'a' :: 'n' :: rest => some (.double Double.nan, rest)
  | _ => do
    let (whole, rest) ← readDecimal rest
    let ((fraction, power), rest) ← readTail rest
    let x := Double.ofDecimal negative (digitsValue (whole ++ fraction)) (power - fraction.length)
    if x = Double.infinity false then none
    return (.double x, rest)

/-- A number of so many digits within limits. -/
def readField (length low high : Nat) (characters : List Char) : Option (Nat × List Char) := do
  let n ← Decimal.readDigits (characters.take length)
  if (characters.take length).length = length ∧ low ≤ n ∧ n ≤ high then
    return (n, characters.drop length)
  else none

def isLeapYear (year : Nat) : Bool := year % 4 == 0 && (year % 100 != 0 || year % 400 == 0)

def daysIn (year month : Nat) : Nat :=
  if month = 2 then (if isLeapYear year then 29 else 28)
  else if month ∈ [4, 6, 9, 11] then 30 else 31

def expect (c : Char) : List Char → Option (List Char)
  | first :: rest => if first = c then some rest else none
  | [] => none

def readDate (characters : List Char) : Option (List Char) := do
  let (year, rest) ← readField 4 0 9999 characters
  let (month, rest) ← readField 2 1 12 (← expect '-' rest)
  let (_, rest) ← readField 2 1 (daysIn year month) (← expect '-' rest)
  return rest

def readTime (characters : List Char) : Option (List Char) := do
  let (_, rest) ← readField 2 0 23 characters
  let (_, rest) ← readField 2 0 59 (← expect ':' rest)
  let (_, rest) ← readField 2 0 60 (← expect ':' rest)
  match rest with
  | '.' :: more => match more.span Char.isDigit with
    | ([], _) => none
    | (_, rest) => return rest
  | _ => return rest

def readOffset (characters : List Char) : Option (List Char) :=
  match characters with
  | 'Z' :: rest | 'z' :: rest => some rest
  | sign :: rest =>
    if sign = '+' ∨ sign = '-' then do
      let (_, rest) ← readField 2 0 23 rest
      let (_, rest) ← readField 2 0 59 (← expect ':' rest)
      return rest
    else some characters
  | [] => some []

/-- A date, a time, or both with a distance from universal time. -/
def readMoment (characters : List Char) : Option (Data × List Char) :=
  match readDate characters with
  | none => (readTime characters).map (Data.other, ·)
  | some rest =>
    let timed := match rest with
      | mark :: more =>
        if mark = 'T' ∨ mark = 't' ∨ mark = ' ' then (readTime more).bind readOffset else none
      | [] => none
    some (Data.other, timed.getD rest)

def readNumber (characters : List Char) : Option (Data × List Char) :=
  readMoment characters <|> readFloat characters <|> readInteger characters

def readScalar (characters : List Char) : Option (Data × List Char) :=
  match characters with
  | '"' :: _ | '\'' :: _ => (readString characters).map fun (text, rest) =>
    (.text (String.ofList text), rest)
  | 't' :: 'r' :: 'u' :: 'e' :: rest => some (.bool true, rest)
  | 'f' :: 'a' :: 'l' :: 's' :: 'e' :: rest => some (.bool false, rest)
  | _ => readNumber characters

end TouchTracking.Toml
