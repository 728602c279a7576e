import TouchTracking.Raster.Image

/-! Binary masks: single-channel images in which only the byte 255 is foreground. -/
namespace TouchTracking.Raster

def foreground : UInt8 := 255

structure Mask where
  image : Image
  channels_eq : image.channels = 1

/-- A mask has exactly one channel. -/
structure ChannelMismatch where
  channels : Nat
  deriving DecidableEq, Repr

def ChannelMismatch.message (mismatch : ChannelMismatch) : String :=
  s!"binary mask must be a single channel image, got {mismatch.channels} channels"

theorem Image.channels_paint (image : Image) (row column : Nat) (color : List UInt8) :
    (image.paint row column color).channels = image.channels := rfl

theorem Image.channels_put (image : Image) (row column : Int) (color : List UInt8) :
    (image.put row column color).channels = image.channels := by
  unfold put
  split <;> rfl

theorem Image.channels_fillRect (image : Image) (top left width height : Int) (value : UInt8) :
    (image.fillRect top left width height value).channels = image.channels := by
  have columns_keep (row : Nat) (color : List UInt8) (columns : List Nat) (image : Image) :
      (columns.foldl (fun image column => image.paint row column color) image).channels =
        image.channels := by
    induction columns generalizing image with
    | nil => rfl
    | cons column rest ih => rw [List.foldl_cons, ih, channels_paint]
  have rows_keep (color : List UInt8) (columns rows : List Nat) (image : Image) :
      (rows.foldl (fun image row => columns.foldl (fun image column =>
        image.paint row column color) image) image).channels = image.channels := by
    induction rows generalizing image with
    | nil => rfl
    | cons row rest ih => rw [List.foldl_cons, ih, columns_keep]
  unfold fillRect
  split
  · rfl
  · exact rows_keep _ _ _ _

namespace Mask

def ofImage (image : Image) : Except ChannelMismatch Mask :=
  if h : image.channels = 1 then .ok ⟨image, h⟩ else .error ⟨image.channels⟩

def width (mask : Mask) : Nat := mask.image.width

def height (mask : Mask) : Nat := mask.image.height

/-- Nothing outside the mask is foreground. -/
def isForeground (mask : Mask) (row column : Int) : Bool :=
  mask.image.contains row column &&
    mask.image.get? row.toNat column.toNat 0 == some foreground

/-- Clears the box with the given inclusive sides. -/
def erase (mask : Mask) (top left bottom right : Int) : Mask where
  image := mask.image.fillRect top left (right - left + 1) (bottom - top + 1) 0
  channels_eq := by rw [Image.channels_fillRect, mask.channels_eq]

end Mask
end TouchTracking.Raster
