import TouchTracking.Blob.Detector
import TouchTracking.Tracking.Arena
import TouchTracking.Tracking.Touch

/-! Identity from frame to frame. The boxes found in a frame are matched one after the other with the
boxes carried over: a box takes the identity of the first one that it overlaps and that no earlier
box has taken, and a new identity otherwise. A carried box that nobody takes ages and shrinks until
it is too old, has vanished, or is covered by a box of the frame. -/
namespace TouchTracking

open Raster (Image Mask)

structure TrackerParams where
  minSize : Nat
  maxSize : Nat
  /-- Matches needed before a box counts as mature. -/
  minAge : Nat
  /-- Missed frames that a box survives. -/
  maxAge : Nat
  deriving DecidableEq, Repr

namespace TrackerParams

def standard : TrackerParams := ⟨8, 25, 2, 3⟩

def detector (params : TrackerParams) : Except SizeError Detector :=
  Detector.ofSizes params.minSize params.maxSize

def validate (params : TrackerParams) : Except SizeError Unit := params.detector.map fun _ => ()

def toJson (params : TrackerParams) : Json :=
  .object [("min_size", .int params.minSize), ("max_size", .int params.maxSize),
    ("min_age", .int params.minAge), ("max_age", .int params.maxAge)]

end TrackerParams

structure Tracker where
  params : TrackerParams
  detector : Detector
  arena : Arena
  nextId : Nat

/-- Why a frame cannot be processed. -/
inductive FrameError
  | emptyDimension
  | channels (mismatch : Raster.ChannelMismatch)
  deriving DecidableEq, Repr

def FrameError.message : FrameError → String
  | .emptyDimension => "binary mask has an empty dimension"
  | .channels mismatch => mismatch.message

namespace Tracker

/-- Identities count from one. -/
def ofDetector (params : TrackerParams) (detector : Detector) : Tracker :=
  ⟨params, detector, Arena.empty, 1⟩

def ofParams (params : TrackerParams) : Except SizeError Tracker :=
  params.detector.map (ofDetector params)

def standard : Tracker := ofDetector TrackerParams.standard Detector.standard

/-- Takes new parameters and keeps what is tracked. -/
def setParams (tracker : Tracker) (params : TrackerParams) : Except SizeError Tracker :=
  params.detector.map fun detector => { tracker with params, detector }

/-- Forgets all boxes; identities go on counting. -/
def clear (tracker : Tracker) : Tracker := { tracker with arena := Arena.empty }

def tracked (tracker : Tracker) : List TrackedBlob := tracker.arena.entries

/-- A frame in the course of matching: what is carried over, what the frame has brought so far, and
the next new identity. -/
structure Matching where
  arena : Arena
  accepted : List TrackedBlob
  nextId : Nat

/-- Whether one of the boxes accepted so far overlaps the given one. -/
def collides (accepted : List TrackedBlob) (blob : Blob) : Bool :=
  accepted.any (·.blob.overlaps blob)

/-- The first slot whose box nobody has taken and that overlaps the given one. -/
def claimable? (arena : Arena) (blob : Blob) : Option (Nat × TrackedBlob) :=
  arena.indexed.find? fun entry => !entry.2.matched && entry.2.blob.overlaps blob

/-- The box of a frame under the identity it inherits. -/
def inherit (minAge : Nat) (prior : TrackedBlob) (blob : Blob) : TrackedBlob :=
  ⟨blob, prior.id, 0, true, min (prior.maturity + 1) minAge⟩

/-- One box of the frame. -/
def Matching.offer (minAge : Nat) (matching : Matching) (blob : Blob) : Matching :=
  if collides matching.accepted blob then matching
  else match claimable? matching.arena blob with
    | some (slot, prior) =>
      { matching with
        arena := matching.arena.modify slot ({ · with matched := true })
        accepted := matching.accepted ++ [inherit minAge prior blob] }
    | none =>
      { matching with
        accepted := matching.accepted ++ [TrackedBlob.ofBlob blob matching.nextId]
        nextId := matching.nextId + 1 }

/-- What becomes of a carried box when all boxes of the frame are matched. -/
def decay (maxAge : Nat) (accepted : List TrackedBlob) (prior : TrackedBlob) : Option TrackedBlob :=
  if prior.matched then none
  else
    let age := prior.age + 1
    let blob := prior.blob.shrunk
    if maxAge < age || blob.isEmpty || collides accepted blob then none
    else some { prior with age, blob }

/-- Whether a box is published: neither side has vanished or is over the size limit. -/
def isEmitted (params : TrackerParams) (tracked : TrackedBlob) : Bool :=
  tracked.blob.fits 1 (signed32 params.maxSize)

def touchOf (width height : Nat) (tracked : TrackedBlob) : Touch where
  id := tracked.id
  x := Touch.share tracked.blob.centerColumn width
  y := Touch.share tracked.blob.centerRow height
  width := tracked.blob.width.toNat
  height := tracked.blob.height.toNat

/-- The boxes to be published. -/
def emitted (tracker : Tracker) : List TrackedBlob := tracker.tracked.filter (isEmitted tracker.params)

/-- The touches for a source of the given size; a source without pixels shows none. -/
def touches (tracker : Tracker) (width height : Nat) : List Touch :=
  if width = 0 ∨ height = 0 then [] else tracker.emitted.map (touchOf width height)

/-- One frame, given the boxes found in it. -/
def advance (tracker : Tracker) (candidates : List Blob) : Tracker :=
  let carried := tracker.arena.mapEntries ({ · with matched := false })
  let matching := candidates.foldl (Matching.offer tracker.params.minAge)
    ⟨carried, [], tracker.nextId⟩
  let survivors := matching.arena.filterMapEntries
    (decay tracker.params.maxAge matching.accepted)
  { tracker with
    arena := survivors.endFrame matching.accepted
    nextId := matching.nextId }

/-- One frame and the touches to be published after it. -/
def update (tracker : Tracker) (candidates : List Blob) (width height : Nat) :
    List Touch × Tracker :=
  let tracker := tracker.advance candidates
  (tracker.touches width height, tracker)

/-- Finds the boxes of a mask and tracks them. -/
def process (tracker : Tracker) (image : Image) : Except FrameError (List Touch × Tracker) :=
  if image.width = 0 ∨ image.height = 0 then .error .emptyDimension
  else match Mask.ofImage image with
    | .error mismatch => .error (.channels mismatch)
    | .ok mask =>
      .ok (tracker.update (tracker.detector.detect mask) image.width image.height)

end Tracker
end TouchTracking
