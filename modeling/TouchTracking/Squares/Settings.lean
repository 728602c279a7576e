import TouchTracking.Property.Bag

/-! Settings of the source of moving squares, and the properties that expose them. -/
namespace TouchTracking

open Binary (Double)

structure SquareSettings where
  width : Nat
  height : Nat
  /-- The count of squares. -/
  blobs : Nat
  /-- The side of a square. -/
  size : Nat
  /-- The greatest drift in a frame along either axis. -/
  speed : Nat
  seed : Nat
  deriving DecidableEq, Repr

namespace SquareSettings

inductive SettingsError
  | emptyFrame
  | tooLarge (size width height : Nat)
  deriving DecidableEq, Repr

def SettingsError.message : SettingsError → String
  | .emptyFrame => "synthetic frame dimensions must be non-zero"
  | .tooLarge size width height =>
    s!"synthetic square size {size} does not fit a {width}x{height} frame"

def SettingsError.failure (error : SettingsError) : Failure := ⟨.configuration, error.message⟩

def standard : SquareSettings := ⟨320, 240, 3, 14, 3, 7⟩

def validate (settings : SquareSettings) : Except SettingsError Unit :=
  if settings.width = 0 ∨ settings.height = 0 then .error .emptyFrame
  else if settings.size = 0 ∨ min settings.width settings.height < settings.size then
    .error (.tooLarge settings.size settings.width settings.height)
  else .ok ()

/-- The number whose low 64 bits these are, the highest of them counting as a sign. -/
def signed64 (n : Nat) : Int := Int.bmod n (1 <<< 64)

def ranged (value : Nat) (minimum maximum : Int) (description : String) : Property :=
  ((Property.ofInt value).withRange (Double.ofInt minimum) (Double.ofInt maximum)).describedAs
    description

/-- The properties with these settings as their first values. -/
def properties (settings : SquareSettings) : List (String × Property) := [
  ("width", ranged settings.width 1 4096 "Frame width in pixels"),
  ("height", ranged settings.height 1 4096 "Frame height in pixels"),
  ("blobs", ranged settings.blobs 0 64 "Number of moving squares"),
  ("size", ranged settings.size 1 512 "Square side in pixels"),
  ("speed", ranged settings.speed 0 64 "Maximum drift per frame in pixels"),
  ("seed", ((Property.ofInt (signed64 settings.seed)).withMinimum (Double.ofInt 0)).describedAs
    "Random generator seed")]

/-- The natural number that a property holds; negative numbers count as zero. -/
def naturalOf (bag : PropertyBag) (name : String) (fallback : Nat) : Nat :=
  match bag.get? name with
  | none => fallback
  | some property => property.value.toInt.toNat

/-- Every field but the seed is held in 32 bits and loses what does not fit. -/
def ofProperties (bag : PropertyBag) : SquareSettings :=
  let field (name : String) (fallback : Nat) := naturalOf bag name fallback % (1 <<< 32)
  { width := field "width" standard.width
    height := field "height" standard.height
    blobs := field "blobs" standard.blobs
    size := field "size" standard.size
    speed := field "speed" standard.speed
    seed := naturalOf bag "seed" standard.seed }

def toJson (settings : SquareSettings) : Json :=
  .object [("width", .int settings.width), ("height", .int settings.height),
    ("blobs", .int settings.blobs), ("size", .int settings.size), ("speed", .int settings.speed),
    ("seed", .int settings.seed)]

end SquareSettings
end TouchTracking
