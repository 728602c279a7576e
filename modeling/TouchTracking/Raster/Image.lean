/-! Interleaved 8-bit frames. Rows run top to bottom, columns left to right, and the channels of one
pixel stand side by side. Coordinates given by a caller are integers, and whatever falls outside
the frame is ignored. -/
namespace TouchTracking.Raster

/-- Byte counts are held in 64 bits. -/
def Image.addressLimit : Nat := 1 <<< 64

/-- There is a byte for every channel of every pixel, unless their count is out of range: it comes round
to zero, and the pixels that are left without bytes cannot be read or written. -/
structure Image where
  width : Nat
  height : Nat
  channels : Nat
  bytes : Array UInt8
  size_eq : bytes.size = width * height * channels % Image.addressLimit
  deriving DecidableEq

/-- The indices below `limit` that lie in the run of `count` integers starting at `start`. -/
def span (start count : Int) (limit : Nat) : List Nat :=
  let first := start.toNat
  List.range' first (min (start + count).toNat limit - first)

/-- Overwrites consecutive bytes from `offset` on. -/
def overwrite (bytes : Array UInt8) (offset : Nat) : List UInt8 → Array UInt8
  | [] => bytes
  | value :: rest => overwrite (bytes.setIfInBounds offset value) (offset + 1) rest

@[simp] theorem size_overwrite (bytes : Array UInt8) (offset : Nat) (values : List UInt8) :
    (overwrite bytes offset values).size = bytes.size := by
  induction values generalizing bytes offset with
  | nil => rfl
  | cons value rest ih => simp [overwrite, ih]

inductive ImageError
  | noChannels
  | tooLarge
  | wrongLength (expected actual : Nat)
  deriving DecidableEq, Repr

def ImageError.message : ImageError → String
  | .noChannels => "image must have at least one channel"
  | .tooLarge => "image dimensions overflow"
  | .wrongLength expected actual => s!"image length mismatch: expected {expected}, got {actual}"

namespace Image

/-- An image of zero bytes. -/
def blank (width height channels : Nat) : Image where
  width
  height
  channels
  bytes := Array.replicate (width * height * channels % addressLimit) 0
  size_eq := by simp

/-- Takes over existing pixel data, whose length must match the dimensions. -/
def ofBytes (width height channels : Nat) (bytes : Array UInt8) : Except ImageError Image :=
  if channels = 0 then .error .noChannels
  else if large : addressLimit ≤ width * height * channels then .error .tooLarge
  else if h : bytes.size = width * height * channels then
    .ok ⟨width, height, channels, bytes, by rw [h, Nat.mod_eq_of_lt (Nat.lt_of_not_le large)]⟩
  else .error (.wrongLength (width * height * channels) bytes.size)

def offset (image : Image) (row column : Nat) : Nat :=
  (row * image.width + column) * image.channels

/-- The byte of one channel of one pixel, if there is such a pixel and such a channel. -/
def get? (image : Image) (row column channel : Nat) : Option UInt8 :=
  if row < image.height ∧ column < image.width ∧ channel < image.channels then
    image.bytes[image.offset row column + channel]?
  else none

def contains (image : Image) (row column : Int) : Bool :=
  0 ≤ row && row < image.height && 0 ≤ column && column < image.width

/-- Writes the leading channels of the pixel at natural coordinates. -/
def paint (image : Image) (row column : Nat) (color : List UInt8) : Image :=
  let start := image.offset row column
  match image with
  | ⟨width, height, channels, bytes, size_eq⟩ =>
    ⟨width, height, channels, overwrite bytes start (color.take channels), by simp [size_eq]⟩

/-- Writes one pixel; a colour shorter than the pixel leaves the remaining channels alone. -/
def put (image : Image) (row column : Int) (color : List UInt8) : Image :=
  if image.contains row column then image.paint row.toNat column.toNat color else image

/-- Sets every channel of the rectangle to one value. An image without bytes stays as it is, however
long its sides are. -/
def fillRect (image : Image) (top left width height : Int) (value : UInt8) : Image :=
  if image.bytes.size = 0 then image
  else
    let color := List.replicate image.channels value
    let columns := span left width image.width
    (span top height image.height).foldl
      (fun image row => columns.foldl (fun image column => image.paint row column color) image)
      image

/-- Sets every byte. -/
def fill (image : Image) (value : UInt8) : Image where
  width := image.width
  height := image.height
  channels := image.channels
  bytes := Array.replicate image.bytes.size value
  size_eq := by simp [image.size_eq]

def sameSize (image other : Image) : Bool :=
  image.width == other.width && image.height == other.height

def pixelCount (image : Image) : Nat := image.width * image.height

/-- The channels of the pixel with the given raster index. -/
def pixel (image : Image) (index : Nat) : List UInt8 :=
  (image.bytes.extract (index * image.channels) ((index + 1) * image.channels)).toList

end Image
end TouchTracking.Raster
