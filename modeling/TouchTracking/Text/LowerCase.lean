import TouchTracking.Text.CaseRanges
import TouchTracking.Text.Printable

/-! Lower case for all scripts. Every character is mapped by itself, with two exceptions: a capital I
with a dot becomes two characters, and a capital sigma takes its final form at the end of a word. -/
namespace TouchTracking.Text

def CaseRun.covers (run : CaseRun) (n : Nat) : Bool :=
  run.first ≤ n && n ≤ run.last && (n - run.first) % run.step == 0

def lowerChar (c : Char) : Char :=
  match lowerRuns.find? (·.covers c.toNat) with
  | none => c
  | some run => Char.ofNat (c.toNat + run.offset).toNat

def isCased (c : Char) : Bool := inRanges casedRanges c.toNat

def isCaseIgnorable (c : Char) : Bool := inRanges ignorableRanges c.toNat

/-- Whether the first character that is not passed over has case. -/
def meetsCased (characters : List Char) : Bool :=
  match characters.dropWhile isCaseIgnorable with
  | [] => false
  | c :: _ => isCased c

/-- Lower case of a text whose earlier characters, the nearest first, are `before`. -/
def lowerAfter (before : List Char) : List Char → List Char
  | [] => []
  | c :: rest =>
    let mapped :=
      if c = 'Σ' then [if meetsCased before && !meetsCased rest then 'ς' else 'σ']
      else if c = 'İ' then ['i', '\u0307']
      else [lowerChar c]
    mapped ++ lowerAfter (c :: before) rest

def lowerCase (text : String) : String := String.ofList (lowerAfter [] text.toList)

end TouchTracking.Text
