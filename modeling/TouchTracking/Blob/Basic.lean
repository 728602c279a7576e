/-! Axis-aligned bounding boxes of foreground regions, kept as a centre and two sides. Along each
axis a box reaches from `centre - side / 2`, with the quotient rounded toward zero, over `side`
pixels. All of it is worked out in words of 32 bits with a sign: a result that is out of range comes
round at the other end of it. -/
namespace TouchTracking

/-- The number that the low 32 bits stand for when the highest of them counts as a sign. -/
def signed32 (n : Int) : Int := Int.bmod n (1 <<< 32)

/-- The inclusive sides of a box. -/
structure Bounds where
  top : Int
  left : Int
  bottom : Int
  right : Int
  deriving DecidableEq, Repr

structure Blob where
  centerRow : Int
  centerColumn : Int
  width : Int
  height : Int
  deriving DecidableEq, Repr

namespace Blob

def ofBounds (bounds : Bounds) : Blob :=
  let width := signed32 (bounds.right - bounds.left + 1)
  let height := signed32 (bounds.bottom - bounds.top + 1)
  ⟨signed32 (bounds.top + height.tdiv 2), signed32 (bounds.left + width.tdiv 2), width, height⟩

def top (blob : Blob) : Int := signed32 (blob.centerRow - blob.height.tdiv 2)

def left (blob : Blob) : Int := signed32 (blob.centerColumn - blob.width.tdiv 2)

def bottom (blob : Blob) : Int := signed32 (blob.top + blob.height - 1)

def right (blob : Blob) : Int := signed32 (blob.left + blob.width - 1)

def bounds (blob : Blob) : Bounds := ⟨blob.top, blob.left, blob.bottom, blob.right⟩

def contains (blob : Blob) (row column : Int) : Bool :=
  blob.top ≤ row && row ≤ blob.bottom && blob.left ≤ column && column ≤ blob.right

/-- Two boxes overlap when the centre of either lies inside the other. -/
def overlaps (blob other : Blob) : Bool :=
  blob.contains other.centerRow other.centerColumn ||
    other.contains blob.centerRow blob.centerColumn

/-- The smallest box enclosing both. -/
def hull (blob other : Blob) : Blob :=
  ofBounds ⟨min blob.top other.top, min blob.left other.left,
    max blob.bottom other.bottom, max blob.right other.right⟩

/-- One pixel smaller along each axis, around the same centre. -/
def shrunk (blob : Blob) : Blob :=
  { blob with width := max (signed32 (blob.width - 1)) 0, height := max (signed32 (blob.height - 1)) 0 }

def isEmpty (blob : Blob) : Bool := blob.width ≤ 0 || blob.height ≤ 0

/-- Both sides lie between the limits, ends included. -/
def fits (blob : Blob) (smallest largest : Int) : Bool :=
  smallest ≤ blob.width && blob.width ≤ largest &&
    smallest ≤ blob.height && blob.height ≤ largest

end Blob
end TouchTracking
