import TouchTracking.Binary.Single
import TouchTracking.Json.Value

/-! Touches: what is published about a tracked box. The position is the centre of the box as a share
of the frame, and the sides are in pixels. -/
namespace TouchTracking

open Binary (Single)

structure Touch where
  id : Nat
  x : Single
  y : Single
  width : Nat
  height : Nat
  deriving DecidableEq, Repr

namespace Touch

/-- A pixel coordinate as a share of the extent, kept between zero and one. -/
def share (pixel : Int) (extent : Nat) : Single :=
  (Single.ofInt pixel / Single.ofInt extent).clamp Single.zero Single.one

def toJson (touch : Touch) : Json :=
  .object [("type", .text "touch"), ("id", .int touch.id), ("x", .single touch.x),
    ("y", .single touch.y), ("w", .int touch.width), ("h", .int touch.height)]

end Touch
end TouchTracking
