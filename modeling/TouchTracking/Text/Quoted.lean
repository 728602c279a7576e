import TouchTracking.Text.Printable

/-! Text between quotation marks, readable on a terminal: quotes and backslashes are escaped, and so is
every character that would not show by itself. -/
namespace TouchTracking.Text

def hexText (n : Nat) : String := String.ofList (Nat.toDigits 16 n)

def escapeQuoted (c : Char) : String :=
  match c with
  | '"' => "\\\""
  | '\\' => "\\\\"
  | '\n' => "\\n"
  | '\r' => "\\r"
  | '\t' => "\\t"
  | '\x00' => "\\0"
  | c => if isPrintable c then c.toString else "\\u\x7b" ++ hexText c.toNat ++ "\x7d"

def quoted (text : String) : String := "\"" ++ String.join (text.toList.map escapeQuoted) ++ "\""

end TouchTracking.Text
