import TouchTracking.Blob.Basic
import TouchTracking.Json.Value

/-! Boxes as JSON. -/
namespace TouchTracking

def Blob.toJson (blob : Blob) : Json :=
  .object [("center_row", .int blob.centerRow), ("center_col", .int blob.centerColumn),
    ("width", .int blob.width), ("height", .int blob.height)]

end TouchTracking
