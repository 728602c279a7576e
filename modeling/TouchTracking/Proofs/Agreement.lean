import TouchTracking.Proofs.Extents
import TouchTracking.Proofs.Fading
import TouchTracking.Proofs.Reordering

/-! The detector and the tracker mean the same by overlapping. What the detector reports has been merged until no
two boxes overlap, so the tracker has nothing to refuse: each reported box is accepted at its turn, and the new
tracked list begins with just these boxes. -/
namespace TouchTracking

open Raster (Image Mask)

theorem Detector.detect_apart (detector : Detector) (mask : Mask) : Blob.Apart (detector.detect mask) :=
  Blob.foldl_merge_apart .nil _

theorem Blob.Apart.keepApart_eq {blobs : List Blob} (apart : Apart blobs) : keepApart [] blobs = blobs :=
  keepApart_of_apart apart

namespace Tracker

/-- The accepted boxes of a frame are those that overlap no earlier accepted one. -/
theorem boxes_matched (tracker : Tracker) (candidates : List Blob) :
    (tracker.matched candidates).boxes = Blob.keepApart [] candidates := by
  have placed := (foldl_offer_described tracker.params.minAge tracker.opening candidates).1
  change (tracker.matched candidates).accepted = _ at placed
  rw [Matching.boxes, placed, List.map_append, map_blob_named,
    List.map_fst_zip (Nat.le_of_eq (length_claims ..).symm)]
  rfl

theorem boxes_matched_of_apart (tracker : Tracker) {candidates : List Blob} (apart : Blob.Apart candidates) :
    (tracker.matched candidates).boxes = candidates := by
  rw [boxes_matched, apart.keepApart_eq]

/-- Of boxes that do not overlap none is refused at its turn. -/
theorem not_collides_of_apart (tracker : Tracker) {before after : List Blob} {blob : Blob}
    (apart : Blob.Apart (before ++ blob :: after)) :
    collides (tracker.matched before).accepted blob = false := by
  obtain ⟨first, -, clear⟩ := List.pairwise_append.mp apart
  have boxes := tracker.boxes_matched_of_apart first
  rw [Matching.boxes] at boxes
  rw [collides_eq, boxes, List.any_eq_false]
  intro other member
  rw [clear other member blob List.mem_cons_self]
  exact Bool.false_ne_true

/-- Boxes that do not overlap are the first ones tracked after their frame, and behind them is what remains of
priors. -/
theorem tracked_advance_of_apart (tracker : Tracker) {candidates : List Blob} (apart : Blob.Apart candidates) :
    ∃ accepted left : List TrackedBlob, (tracker.advance candidates).tracked = accepted ++ left.map faded ∧
      accepted.map (·.blob) = candidates ∧ (∀ entry ∈ accepted, entry.matched = true ∧ entry.age = 0) ∧
      ∀ prior ∈ left, prior ∈ tracker.tracked ∧ lasts tracker.params.maxAge candidates prior = true := by
  have tracked := (tracked_advance_described tracker candidates).1
  rw [apart.keepApart_eq] at tracked
  refine ⟨_, _, tracked, ?_, fun entry member => ?_, fun prior member => ?_⟩
  · rw [map_blob_named, List.map_fst_zip (Nat.le_of_eq (length_claims ..).symm)]
  · obtain ⟨matched, young, -⟩ := mem_named member
    exact ⟨matched, young⟩
  · obtain ⟨free, lasting⟩ := List.mem_filter.mp member
    exact ⟨(unclaimed_sublist ..).subset free, lasting⟩

theorem process_of_mask (tracker : Tracker) {image : Image} (single : image.channels = 1)
    (sized : image.width ≠ 0 ∧ image.height ≠ 0) :
    tracker.process image =
      .ok (tracker.update (tracker.detector.detect ⟨image, single⟩) image.width image.height) := by
  simp only [process, if_neg (not_or.mpr sized), Mask.ofImage, dif_pos single]

/-- In whatever state the tracker is and whatever a mask with pixels shows, processing the mask goes through, and
the tracked list then begins with the boxes found in the mask, all of them and in their order, each matched and
without age. What follows is not matched and remains of boxes tracked before. None of the boxes found is refused
for overlapping one that was accepted before it. -/
theorem process_keeps_detections (tracker : Tracker) {image : Image} (single : image.channels = 1)
    (sized : image.width ≠ 0 ∧ image.height ≠ 0) :
    let found := tracker.detector.detect ⟨image, single⟩
    (∃ touches next accepted survivors, tracker.process image = .ok (touches, next) ∧
      next.tracked = accepted ++ survivors ∧ accepted.map (·.blob) = found ∧
      (∀ entry ∈ accepted, entry.matched = true ∧ entry.age = 0) ∧
      ∀ entry ∈ survivors, entry.matched = false ∧
        ∃ prior ∈ tracker.tracked, lasts tracker.params.maxAge found prior = true ∧ entry = faded prior) ∧
    ∀ before blob after, found = before ++ blob :: after →
      collides (tracker.matched before).accepted blob = false := by
  intro found
  have apart : Blob.Apart found := Detector.detect_apart ..
  obtain ⟨accepted, left, tracked, boxes, matched, lasting⟩ := tracker.tracked_advance_of_apart apart
  refine ⟨⟨_, _, accepted, left.map faded, tracker.process_of_mask single sized, tracked, boxes, matched,
    fun entry member => ?_⟩, fun before blob after split => ?_⟩
  · obtain ⟨prior, listed, rfl⟩ := List.mem_map.mp member
    obtain ⟨held, lasts⟩ := lasting prior listed
    exact ⟨rfl, prior, held, lasts, rfl⟩
  · exact tracker.not_collides_of_apart (split ▸ apart)

/-- Two boxes are tracked, of which the next mask shows the first. -/
def underway : Tracker :=
  (ofDetector ⟨2, 8, 2, 3⟩ .fine).run [.update [⟨3, 1, 3, 3⟩, ⟨2, 8, 3, 3⟩] 10 10]

theorem process_keeps_detections_underway :
    chained.image.channels = 1 ∧ (chained.image.width ≠ 0 ∧ chained.image.height ≠ 0) ∧
    (∃ touches next accepted survivors, underway.process chained.image = .ok (touches, next) ∧
      next.tracked = accepted ++ survivors ∧ accepted.map (·.blob) = [⟨4, 1, 3, 4⟩, ⟨8, 8, 4, 4⟩] ∧
      (∀ entry ∈ accepted, entry.matched = true ∧ entry.age = 0) ∧
      ∀ entry ∈ survivors, entry.matched = false ∧
        ∃ prior ∈ underway.tracked, lasts 3 [⟨4, 1, 3, 4⟩, ⟨8, 8, 4, 4⟩] prior = true ∧ entry = faded prior) ∧
    (underway.process chained.image).toOption.map (·.2.tracked) = some
      [⟨⟨4, 1, 3, 4⟩, 1, 0, true, 1⟩, ⟨⟨8, 8, 4, 4⟩, 3, 0, true, 0⟩, ⟨⟨2, 8, 2, 2⟩, 2, 1, false, 0⟩] := by
  have sized : chained.image.width ≠ 0 ∧ chained.image.height ≠ 0 := by decide +kernel
  have found : underway.detector.detect ⟨chained.image, chained.channels_eq⟩ =
      [⟨4, 1, 3, 4⟩, ⟨8, 8, 4, 4⟩] := by decide +kernel
  obtain ⟨kept, -⟩ := underway.process_keeps_detections chained.channels_eq sized
  rw [found] at kept
  exact ⟨chained.channels_eq, sized, kept, by decide +kernel⟩

end Tracker
end TouchTracking
