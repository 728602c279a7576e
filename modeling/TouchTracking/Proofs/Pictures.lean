import Mathlib.Data.List.Induction
import TouchTracking.Proofs.Outlets
import TouchTracking.Proofs.Separation

/-! What a picture shows. Each emitted box colours the pixels of its border that are in the frame, and the later boxes
are drawn over the earlier ones; so a pixel has the colour of the last box on whose border it lies, and is black if
there is none. It makes no difference that the picture is drawn on the canvas of an earlier one, and what was there
before. All of this is for masks whose sides are words with a sign: only then no bound of a box is cut. -/
namespace TouchTracking

open Raster (Image Picture)

theorem mem_between (first last value : Int) : value ∈ between first last ↔ first ≤ value ∧ value ≤ last := by
  simp only [between, List.mem_map, List.mem_range]
  constructor
  · rintro ⟨count, inside, rfl⟩
    omega
  · rintro ⟨low, high⟩
    exact ⟨(value - first).toNat, by omega, by omega⟩

/-- A pixel of the box that lies on one of its sides. -/
def Blob.Borders (blob : Blob) (row column : Int) : Prop :=
  blob.bounds.Covers row column ∧
    (row = blob.top ∨ row = blob.bottom ∨ column = blob.left ∨ column = blob.right)

instance (blob : Blob) (row column : Int) : Decidable (blob.Borders row column) :=
  inferInstanceAs (Decidable (_ ∧ _))

/-- A box with pixels whose bounds are not cut has them in order. -/
theorem Blob.InRange.proper {blob : Blob} (inRange : blob.InRange) (sides : 1 ≤ blob.width ∧ 1 ≤ blob.height) :
    blob.bounds.Proper := by
  rw [inRange.bounds_eq]
  constructor <;> simp only <;> omega

namespace Raster.Image

theorem get?_foldl_put (image : Image) (cells : List (Int × Int)) (color : List UInt8) (row column channel : Nat) :
    (cells.foldl (fun image cell => image.put cell.1 cell.2 color) image).get? row column channel =
      (image.get? row column channel).map fun old =>
        if ((row : Int), (column : Int)) ∈ cells then color[channel]?.getD old else old := by
  induction cells generalizing image with
  | nil => simp
  | cons cell cells ih =>
    rw [List.foldl_cons, ih, get?_put, Option.map_map]
    congr 1
    funext old
    by_cases later : ((row : Int), (column : Int)) ∈ cells
    · cases color[channel]? <;> simp [later]
    · simp [later, Prod.ext_iff]

end Raster.Image

namespace Tracker

theorem sides_of_emitted {tracker : Tracker} {entry : TrackedBlob} (shown : entry ∈ tracker.emitted) :
    1 ≤ entry.blob.width ∧ 1 ≤ entry.blob.height := by
  have fits := (List.mem_filter.mp shown).2
  simp only [isEmitted, Blob.fits, Bool.and_eq_true, decide_eq_true_eq] at fits
  omega

end Tracker

namespace Tracker

variable {tracker : Tracker} {width height : Nat}

def annotated (tracker : Tracker) (width height : Nat) : Image :=
  tracker.emitted.foldl (fun image entry => drawOutline image entry.blob (tracker.color entry))
    (Image.blank width height 3)

/-- Nothing is cut when a tracked box is worked out. -/
def AllExact (tracker : Tracker) : Prop := ∀ entry ∈ tracker.tracked, Exact entry

theorem AllExact.proper (exact : tracker.AllExact) {entry : TrackedBlob} (shown : entry ∈ tracker.emitted) :
    entry.blob.bounds.Proper :=
  (exact entry (List.mem_of_mem_filter shown)).1.proper (sides_of_emitted shown)

/-- The boxes of a mask whose sides are words with a sign are not cut, and what is left of them later is not either. -/
theorem AllExact.process (exact : tracker.AllExact) {mask : Image} (narrow : mask.width < 2 ^ 31)
    (low : mask.height < 2 ^ 31) {touches : List Touch} {next : Tracker}
    (processed : tracker.process mask = .ok (touches, next)) : next.AllExact := by
  obtain ⟨masked, taken, rfl, -⟩ := process_ok processed
  refine advance_exact exact fun blob found => ?_
  have same : masked.image = mask := by
    unfold Raster.Mask.ofImage at taken
    split at taken <;> cases taken
    rfl
  subst same
  exact (Detector.lies_of_detected ⟨narrow, low⟩ found).exact ⟨narrow, low⟩

end Tracker

namespace BlobTracker

variable {ω : Type} {stage : Stage Body} {fabric : Fabric ω} {drawn told : FeedId}

/-- The sides of the mask that is shown, if there is one, are words with a sign. -/
def Sized (stage : Stage Body) (fabric : Fabric ω) : Prop :=
  ∀ mask ∈ mask? stage fabric, mask.width < 2 ^ 31 ∧ mask.height < 2 ^ 31

instance (stage : Stage Body) (fabric : Fabric ω) : Decidable (Sized stage fabric) :=
  inferInstanceAs (Decidable (∀ mask ∈ mask? stage fabric, _))

namespace World

variable {world : World ω}

/-- From the beginning to the end of the deeds, no mask is shown with a side that is no word with a sign. -/
def Narrow (world : World ω) : List Deed → Prop
  | [] => Sized world.stage world.fabric
  | deed :: deeds => Sized world.stage world.fabric ∧ Narrow (world.act deed) deeds

instance decidableNarrow : (world : World ω) → (deeds : List Deed) → Decidable (world.Narrow deeds)
  | world, [] => inferInstanceAs (Decidable (Sized world.stage world.fabric))
  | world, deed :: deeds =>
    have := decidableNarrow (world.act deed) deeds
    inferInstanceAs (Decidable (_ ∧ _))

/-- A box matures and is lost; on the next mask, a smaller one, another box is found that meets its corner. -/
def crossing : List Deed :=
  let early : Image := (Image.blank 7 7 1).fillRect 2 2 5 5 255
  let late : Image := (Image.blank 5 5 1).fillRect 0 0 3 3 255
  [.connect (some ⟨0⟩) 0, .start, .write "min_age" (.int 1), .write "min_size" (.int 2),
    .push ⟨0⟩ (.image early), .poll, .push ⟨0⟩ (.image early), .poll,
    .push ⟨0⟩ (.image late)]

end World

end BlobTracker

end TouchTracking
