import TouchTracking.Raster.Mask
import TouchTracking.Tracking.Tracker

/-! Pictures of what is tracked: the outline of every published box on black, green once the box is
mature and yellow before. Later boxes are drawn over earlier ones. -/
namespace TouchTracking

open Raster (Image)

/-- Pictures in colour have three channels. -/
structure Raster.Picture where
  image : Image
  channels_eq : image.channels = 3

open Raster (Picture)

def Raster.Picture.blank (width height : Nat) : Picture := ⟨Image.blank width height 3, rfl⟩

def matureColor : List UInt8 := [0, 255, 0]

def nascentColor : List UInt8 := [255, 255, 0]

/-- The integers from `first` to `last`. -/
def between (first last : Int) : List Int :=
  (List.range (last - first + 1).toNat).map fun (n : Nat) => first + n

/-- The border cells of a box. -/
def Blob.outline (blob : Blob) : List (Int × Int) :=
  (between blob.left blob.right).flatMap (fun column => [(blob.top, column), (blob.bottom, column)]) ++
    (between blob.top blob.bottom).flatMap fun row => [(row, blob.left), (row, blob.right)]

/-- The canvas for the picture of a mask: the one that was kept, if it has the size of the mask, or
else a new one. -/
def canvasFor (mask : Image) : (kept : Option Picture) → Picture
  | some canvas => if canvas.image.sameSize mask then canvas else .blank mask.width mask.height
  | none => .blank mask.width mask.height

namespace Tracker

def color (tracker : Tracker) (tracked : TrackedBlob) : List UInt8 :=
  if tracked.isMature tracker.params.minAge then matureColor else nascentColor

def drawOutline (image : Image) (blob : Blob) (color : List UInt8) : Image :=
  blob.outline.foldl (fun image cell => image.put cell.1 cell.2 color) image

theorem channels_drawOutline (image : Image) (blob : Blob) (color : List UInt8) :
    (drawOutline image blob color).channels = image.channels :=
  List.foldlRecOn (motive := fun drawn : Image => drawn.channels = image.channels) blob.outline _ rfl
    fun _ kept _ _ => (Image.channels_put ..).trans kept

/-- Wipes the canvas and outlines each tracked box, unless its size is not one to be published. -/
def drawn (tracker : Tracker) (canvas : Picture) : Picture where
  image := tracker.tracked.foldl
    (fun image tracked =>
      if isEmitted tracker.params tracked then drawOutline image tracked.blob (tracker.color tracked) else image)
    (canvas.image.fill 0)
  channels_eq := by
    refine List.foldlRecOn (motive := fun drawn : Image => drawn.channels = 3) tracker.tracked _ canvas.channels_eq
      fun image colored tracked _ => ?_
    split
    · exact (channels_drawOutline ..).trans colored
    · exact colored

end Tracker
end TouchTracking
