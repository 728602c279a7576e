import Mathlib.Algebra.Group.Nat.Defs
import TouchTracking.Proofs.Boxes
import TouchTracking.Proofs.Sweep

/-! The detector on drawings of rectangles: what it reports are the rectangles of wanted size, unmerged
and in the order of their first seeds. -/
namespace TouchTracking

open Raster (Mask Precedes)

theorem signed32_of_lt {size : Nat} (small : size < 2 ^ 31) : signed32 size = size :=
  signed32_of_word ⟨by omega, by omega⟩

def Detector.Wants (detector : Detector) (bounds : Bounds) : Prop :=
  (detector.minSize ≤ bounds.right - bounds.left + 1 ∧
    bounds.right - bounds.left + 1 ≤ detector.maxSize) ∧
  detector.minSize ≤ bounds.bottom - bounds.top + 1 ∧
    bounds.bottom - bounds.top + 1 ≤ detector.maxSize

instance (detector : Detector) (bounds : Bounds) : Decidable (detector.Wants bounds) :=
  inferInstanceAs (Decidable ((_ ∧ _) ∧ _ ∧ _))

namespace Detector

theorem accepts_ofBounds {detector : Detector} (small : detector.maxSize < 2 ^ 31)
    {bounds : Bounds} (inRange : bounds.InRange) :
    detector.accepts (Blob.ofBounds bounds) = decide (detector.Wants bounds) := by
  have low := signed32_of_lt (Nat.lt_of_le_of_lt detector.minSize_le_maxSize small)
  rw [accepts, low, signed32_of_lt small, Blob.fits, inRange.ofBounds_eq, Bool.eq_iff_iff]
  simp [Wants, and_assoc]

/-- Every rectangle of wanted size in the mask holds a seed. -/
theorem Wants.exists_seed {detector : Detector} {mask : Mask} {bounds : Bounds}
    (wanted : detector.Wants bounds) (first : 0 ≤ bounds.top ∧ 0 ≤ bounds.left)
    (last : bounds.bottom < mask.height ∧ bounds.right < mask.width) :
    ∃ seed ∈ detector.grid mask, bounds.Covers seed.1 seed.2 := by
  obtain ⟨⟨wide, -⟩, high, -⟩ := wanted
  have positive := detector.stride_pos
  have side : detector.stride = detector.minSize := rfl
  obtain ⟨row, row_low, row_high, row_tick⟩ :=
    detector.exists_tick bounds.top.toNat bounds.bottom.toNat (by omega)
  obtain ⟨column, column_low, column_high, column_tick⟩ :=
    detector.exists_tick bounds.left.toNat bounds.right.toNat (by omega)
  refine ⟨(row, column), (mem_grid ..).mpr ⟨⟨by omega, row_tick⟩, by omega, column_tick⟩, ?_⟩
  simp only [Bounds.Covers]
  omega

end Detector

theorem Drawing.inside {mask : Mask} {rects : List Bounds} (drawing : Drawing mask rects)
    {bounds : Bounds} (member : bounds ∈ rects) :
    (0 ≤ bounds.top ∧ 0 ≤ bounds.left) ∧ bounds.bottom < mask.height ∧ bounds.right < mask.width := by
  obtain ⟨rows, columns⟩ := drawing.proper bounds member
  have first := Mask.inside_of_isForeground ((drawing.foreground bounds.top bounds.left).mpr
    ⟨bounds, member, Int.le_refl _, rows, Int.le_refl _, columns⟩)
  have last := Mask.inside_of_isForeground ((drawing.foreground bounds.bottom bounds.right).mpr
    ⟨bounds, member, rows, Int.le_refl _, columns, Int.le_refl _⟩)
  omega

theorem Drawing.inRange {mask : Mask} {rects : List Bounds} (drawing : Drawing mask rects)
    (inRange : mask.InRange) {bounds : Bounds} (member : bounds ∈ rects) :
    bounds.InRange := by
  obtain ⟨rows, columns⟩ := drawing.proper bounds member
  have inside := drawing.inside member
  obtain ⟨narrow, low⟩ := inRange
  constructor <;> omega

/-- The measured rectangles are those that the grid takes out, in the same order. -/
theorem Drawing.swept {mask : Mask} {rects : List Bounds} (drawing : Drawing mask rects)
    (detector : Detector) :
    Swept (detector.grid mask) rects ((detector.measurements mask).map Measurement.bounds) := by
  obtain ⟨out, swept, listed⟩ := drawing.scan (detector.grid mask) []
  rw [Detector.measurements, List.map_reverse, listed]
  simpa using swept

theorem Drawing.clear_of_ne {mask : Mask} {rects : List Bounds} (drawing : Drawing mask rects)
    (inRange : mask.InRange) {bounds other : Bounds} (member : bounds ∈ rects)
    (member' : other ∈ rects) (distinct : bounds ≠ other) :
    (Blob.ofBounds bounds).overlaps (Blob.ofBounds other) = false := by
  rw [Bool.eq_false_iff]
  intro meet
  obtain ⟨row, column, here, there⟩ := Blob.shared_of_overlaps (drawing.inRange inRange member)
    (drawing.inRange inRange member') meet
  exact distinct (drawing.unique member member' here there)

/-- If the measured rectangles are some of the drawing, those of wanted size are reported as they are. -/
theorem Drawing.detect_eq {mask : Mask} {rects out : List Bounds} (drawing : Drawing mask rects)
    (inRange : mask.InRange) {detector : Detector}
    (swept : Swept (detector.grid mask) rects out) (small : detector.maxSize < 2 ^ 31)
    (listed : (detector.measurements mask).map Measurement.bounds = out) :
    detector.detect mask = (out.filter (detector.Wants ·)).map Blob.ofBounds := by
  have blobs : (detector.measurements mask).map Measurement.blob = out.map Blob.ofBounds := by
    rw [← listed, List.map_map]
    rfl
  have accepted : ((detector.measurements mask).map Measurement.blob).filter detector.accepts =
      (out.filter (detector.Wants ·)).map Blob.ofBounds := by
    rw [blobs, List.filter_map]
    congr 1
    exact List.filter_congr fun bounds taken =>
      Detector.accepts_ofBounds small (drawing.inRange inRange (swept.subset _ taken))
  rw [Detector.detect, accepted, Blob.foldl_merge_of_clear, List.nil_append]
  rw [List.nil_append, List.pairwise_map]
  refine (swept.nodup.filter _).imp_of_mem fun taken taken' distinct => ?_
  exact drawing.clear_of_ne inRange (swept.subset _ (List.mem_of_mem_filter taken))
    (swept.subset _ (List.mem_of_mem_filter taken')) distinct

theorem Drawing.detect_alone {mask : Mask} {bounds : Bounds} (drawing : Drawing mask [bounds])
    (inRange : mask.InRange) {detector : Detector} (wanted : detector.Wants bounds)
    (small : detector.maxSize < 2 ^ 31) :
    detector.detect mask = [Blob.ofBounds bounds] := by
  have swept := drawing.swept detector
  obtain ⟨first, last⟩ := drawing.inside (List.mem_singleton_self bounds)
  obtain ⟨seed, visited, covered⟩ := wanted.exists_seed first last
  have taken := swept.complete (List.mem_singleton_self bounds) visited covered drawing.unshared
  have alone : (detector.measurements mask).map Measurement.bounds = [bounds] := by
    rw [← List.perm_singleton, List.perm_ext_iff_of_nodup swept.nodup (List.nodup_singleton _)]
    intro other
    refine ⟨swept.subset other, fun member => ?_⟩
    rw [List.mem_singleton.mp member]
    exact taken
  rw [drawing.detect_eq inRange swept small rfl, alone]
  simp [wanted]

/-- On a drawing of separate rectangles the detector reports those of wanted size, each once and with
its own bounds, in the raster order of their first seeds, and nothing else. -/
theorem detect_drawing {detector : Detector} {mask : Mask} {rects : List Bounds}
    (drawing : Drawing mask rects) (inRange : mask.InRange)
    (small : detector.maxSize < 2 ^ 31) :
    ∃ found : List Bounds, found.Perm (rects.filter (detector.Wants ·)) ∧
      found.Pairwise (Before (detector.grid mask)) ∧
      detector.detect mask = found.map Blob.ofBounds ∧
      (detector.detect mask).map Blob.bounds = found := by
  have swept := drawing.swept detector
  generalize listed : (detector.measurements mask).map Measurement.bounds = out at swept
  have unshared := drawing.unshared
  have unmerged := drawing.detect_eq inRange swept small listed
  refine ⟨out.filter (detector.Wants ·), ?_, ?_, unmerged, ?_⟩
  · rw [List.perm_ext_iff_of_nodup (swept.nodup.filter _) (drawing.nodup.filter _)]
    intro bounds
    simp only [List.mem_filter, decide_eq_true_eq]
    constructor
    · rintro ⟨taken, wanted⟩
      exact ⟨swept.subset bounds taken, wanted⟩
    · rintro ⟨member, wanted⟩
      obtain ⟨first, last⟩ := drawing.inside member
      obtain ⟨seed, visited, covered⟩ := wanted.exists_seed first last
      exact ⟨swept.complete member visited covered unshared, wanted⟩
  · exact (swept.ordered (detector.grid_ordered mask) unshared).2.filter _
  · rw [unmerged, List.map_map, List.map_congr_left fun bounds taken => ?_, List.map_id]
    exact (drawing.inRange inRange (swept.subset _ (List.mem_of_mem_filter taken))).bounds_ofBounds

/-- Two rectangles that touch at a corner, one of them in the corner of the mask, and two of the wrong
size, of which the one is seeded and too low and the other too wide. -/
def corners : List Bounds := [⟨20, 0, 31, 39⟩, ⟨0, 12, 3, 30⟩, ⟨9, 10, 17, 19⟩, ⟨0, 0, 8, 9⟩]

def cornersMask : Mask := Drawing.picture 40 32 corners

theorem corners_drawing : Drawing cornersMask corners :=
  Drawing.of_picture (by decide) (by decide) (by decide) (by decide) (by decide)

theorem cornersMask_inRange : cornersMask.InRange := Drawing.picture_inRange (by decide) (by decide) corners

theorem detect_drawing_corners :
    Drawing cornersMask corners ∧ cornersMask.InRange ∧
    Detector.standard.maxSize < 2 ^ 31 ∧
    ∃ found : List Bounds, found.Perm (corners.filter (Detector.standard.Wants ·)) ∧
      found.Pairwise (Before (Detector.standard.grid cornersMask)) ∧
      Detector.standard.detect cornersMask = found.map Blob.ofBounds ∧
      (Detector.standard.detect cornersMask).map Blob.bounds = found :=
  ⟨corners_drawing, cornersMask_inRange, by decide,
    detect_drawing corners_drawing cornersMask_inRange (by decide)⟩

end TouchTracking
