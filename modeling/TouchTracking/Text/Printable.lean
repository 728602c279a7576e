import TouchTracking.Text.HiddenRanges

/-! Which characters show by themselves. -/
namespace TouchTracking.Text

def inRanges (ranges : List (Nat × Nat)) (n : Nat) : Bool :=
  ranges.any fun range => range.1 ≤ n && n ≤ range.2

def isPrintable (c : Char) : Bool :=
  let n := c.toNat
  if n < 0x7F then 0x20 ≤ n else !inRanges hiddenRanges n

end TouchTracking.Text
