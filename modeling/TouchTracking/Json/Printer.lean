import TouchTracking.Json.Value
import TouchTracking.Decimal.Layout

/-! Writing JSON, on one line or indented by two spaces a level. -/
namespace TouchTracking.Json

open Decimal (Layout)

/-- A number of a whole value ends in `.0`, a number that is not finite is `null`, and of two equally
near decimals the one with the even last digit is written. -/
def numberLayout (least greatest : Int) : Layout where
  positional := some (least, greatest)
  wholeMark := ".0"
  nanText := "null"
  infinityText _ := "null"
  tie := .even

/-- Doubles are positional from 0.00001 up to, but not including, 10000000000000000. -/
def doubleLayout : Layout := numberLayout (-5) 15

/-- Singles are positional from 0.000001 up to, but not including, 10000000000000. -/
def singleLayout : Layout := numberLayout (-6) 12

def hexDigit (n : Nat) : Char := (Nat.toDigits 16 (n % 16)).headD '0'

/-- Quotes, backslashes and control characters are escaped; all else stands for itself. -/
def escape (c : Char) : List Char :=
  match c with
  | '"' => ['\\', '"']
  | '\\' => ['\\', '\\']
  | '\n' => ['\\', 'n']
  | '\r' => ['\\', 'r']
  | '\t' => ['\\', 't']
  | '\x08' => ['\\', 'b']
  | '\x0c' => ['\\', 'f']
  | c =>
    if c.toNat < 0x20 then ['\\', 'u', '0', '0', hexDigit (c.toNat / 16), hexDigit c.toNat] else [c]

def quoted (text : String) : String :=
  String.ofList ('"' :: text.toList.flatMap escape ++ ['"'])

/-- The text of a value that has no parts. -/
def leafText : Json → String
  | .null => "null"
  | .bool true => "true"
  | .bool false => "false"
  | .int n => toString n
  | .double x => doubleLayout.writeDouble x
  | .single x => singleLayout.writeSingle x
  | .text s => quoted s
  | .list _ => "[]"
  | .object _ => "\x7b\x7d"

mutual

/-- The value on one line, without spaces. -/
def compact : Json → String
  | .list items => "[" ++ ",".intercalate (compactItems items) ++ "]"
  | .object fields => "\x7b" ++ ",".intercalate (compactFields fields) ++ "\x7d"
  | leaf => leafText leaf

def compactItems : List Json → List String
  | [] => []
  | item :: rest => compact item :: compactItems rest

def compactFields : List (String × Json) → List String
  | [] => []
  | (name, value) :: rest => (quoted name ++ ":" ++ compact value) :: compactFields rest

end

def newline (depth : Nat) : String := "\n" ++ String.ofList (List.replicate (2 * depth) ' ')

/-- Parts on lines of their own between two brackets. -/
def block (depth : Nat) (opening closing : String) (parts : List String) : String :=
  opening ++ newline (depth + 1) ++ ("," ++ newline (depth + 1)).intercalate parts ++
    newline depth ++ closing

mutual

/-- The value with every part on a line of its own; a value without parts stays on its line. -/
def pretty (depth : Nat) : Json → String
  | .list (item :: rest) => block depth "[" "]" (pretty (depth + 1) item :: prettyItems (depth + 1) rest)
  | .object (field :: rest) => block depth "\x7b" "\x7d" (prettyFields (depth + 1) (field :: rest))
  | leaf => leafText leaf

def prettyItems (depth : Nat) : List Json → List String
  | [] => []
  | item :: rest => pretty depth item :: prettyItems depth rest

def prettyFields (depth : Nat) : List (String × Json) → List String
  | [] => []
  | (name, value) :: rest => (quoted name ++ ": " ++ pretty depth value) :: prettyFields depth rest

end

end TouchTracking.Json
