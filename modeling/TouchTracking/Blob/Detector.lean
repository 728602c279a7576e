import TouchTracking.Blob.Merge
import TouchTracking.Raster.Mask

/-! Finding boxes in a binary mask. Seeds are taken from a square grid whose spacing is the smallest
side sought, so that every square of that side holds a seed. From a foreground seed four probes
measure the region; the measured box is cleared so that it seeds no second measurement; boxes of a
wanted size are collected and merged where they overlap. -/
namespace TouchTracking

open Raster (Mask)

structure Detector where
  minSize : Nat
  maxSize : Nat
  one_le_minSize : 1 ≤ minSize
  minSize_le_maxSize : minSize ≤ maxSize

inductive SizeError
  | minTooSmall
  | maxBelowMin (maxSize minSize : Nat)
  deriving DecidableEq, Repr

def SizeError.message : SizeError → String
  | .minTooSmall => "min_size must be >= 1"
  | .maxBelowMin maxSize minSize => s!"max_size ({maxSize}) must be >= min_size ({minSize})"

/-- A seed and the box measured from it. -/
structure Measurement where
  row : Nat
  column : Nat
  bounds : Bounds
  deriving DecidableEq, Repr

def Measurement.blob (measurement : Measurement) : Blob := Blob.ofBounds measurement.bounds

/-- The last position reached from `position` by steps that stay inside, at most `limit` of them. -/
def reach (inside : Int → Bool) (step : Int) : (limit : Nat) → (position : Int) → Int
  | 0, position => position
  | limit + 1, position =>
    if inside (position + step) then reach inside step limit (position + step) else position

namespace Detector

def ofSizes (minSize maxSize : Nat) : Except SizeError Detector :=
  if low : minSize = 0 then .error .minTooSmall
  else if high : maxSize < minSize then .error (.maxBelowMin maxSize minSize)
  else .ok ⟨minSize, maxSize, by omega, by omega⟩

def standard : Detector := ⟨8, 25, by decide, by decide⟩

instance : Inhabited Detector := ⟨standard⟩

/-- The spacing of the seed grid. -/
def stride (detector : Detector) : Nat := detector.minSize

/-- The multiples of the stride below a limit. -/
def ticks (detector : Detector) (limit : Nat) : List Nat :=
  (List.range ((limit + detector.stride - 1) / detector.stride)).map (· * detector.stride)

/-- The seed grid, row by row; rows without columns hold no seed. -/
def grid (detector : Detector) (mask : Mask) : List (Nat × Nat) :=
  if mask.width = 0 then []
  else
    (detector.ticks mask.height).flatMap fun row =>
      (detector.ticks mask.width).map fun column => (row, column)

/-- Probes right, then up and down from the middle of that run, then left and right from the middle
of that column; the second horizontal pass corrects a seed away from the middle. -/
def measure (mask : Mask) (row column : Nat) : Measurement :=
  let horizontal (row step position : Int) :=
    reach (fun column => mask.isForeground row column) step mask.width position
  let vertical (column step position : Int) :=
    reach (fun row => mask.isForeground row column) step mask.height position
  let runRight := horizontal row 1 column
  let middleColumn := (column + runRight).tdiv 2
  let top := vertical middleColumn (-1) row
  let bottom := vertical middleColumn 1 row
  let middleRow := (top + bottom).tdiv 2
  let left := min (horizontal middleRow (-1) middleColumn) column
  let right := max (horizontal middleRow 1 middleColumn) runRight
  ⟨row, column, ⟨top, left, bottom, right⟩⟩

/-- A scan in progress: the mask with the boxes measured so far cleared, and those boxes, the latest
first. -/
structure Scan where
  mask : Mask
  measured : List Measurement

def Scan.visit (scan : Scan) (seed : Nat × Nat) : Scan :=
  if scan.mask.isForeground seed.1 seed.2 then
    let measurement := measure scan.mask seed.1 seed.2
    let bounds := measurement.bounds
    ⟨scan.mask.erase bounds.top bounds.left bounds.bottom bounds.right,
      measurement :: scan.measured⟩
  else scan

/-- Every box measured in a scan of the mask, in the order of measuring. -/
def measurements (detector : Detector) (mask : Mask) : List Measurement :=
  ((detector.grid mask).foldl Scan.visit ⟨mask, []⟩).measured.reverse

/-- The size test; a side limit is held in 32 bits with a sign. -/
def accepts (detector : Detector) (blob : Blob) : Bool :=
  blob.fits (signed32 detector.minSize) (signed32 detector.maxSize)

/-- The boxes of wanted size, overlapping ones merged. -/
def detect (detector : Detector) (mask : Mask) : List Blob :=
  (((detector.measurements mask).map Measurement.blob).filter detector.accepts).foldl Blob.merge []

end Detector
end TouchTracking
