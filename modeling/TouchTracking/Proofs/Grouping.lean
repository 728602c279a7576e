import Mathlib.Data.List.Forall2
import Mathlib.Data.List.Perm.Basic
import TouchTracking.Proofs.Extents

/-! What a reported box stands for. Joining boxes loses none of them: at every moment the boxes taken in
so far fall into groups, one for each kept box, and the kept box is the smallest rectangle around its
group. A new box opens a group of its own, and joining two boxes joins their groups. -/
namespace TouchTracking

open Raster (Mask)

/-- The smallest rectangle around a group: it encloses every member, and each of its sides is a side of
one of them. -/
structure Bounds.Spans (bounds : Bounds) (group : List Bounds) : Prop where
  encloses : ∀ member ∈ group, bounds.Encloses member
  top : ∃ member ∈ group, member.top = bounds.top
  left : ∃ member ∈ group, member.left = bounds.left
  bottom : ∃ member ∈ group, member.bottom = bounds.bottom
  right : ∃ member ∈ group, member.right = bounds.right

namespace Bounds.Spans

theorem singleton (bounds : Bounds) : bounds.Spans [bounds] where
  encloses member found := by
    rw [List.mem_singleton.mp found]
    exact ⟨Int.le_refl _, Int.le_refl _, Int.le_refl _, Int.le_refl _⟩
  top := ⟨bounds, List.mem_singleton_self _, rfl⟩
  left := ⟨bounds, List.mem_singleton_self _, rfl⟩
  bottom := ⟨bounds, List.mem_singleton_self _, rfl⟩
  right := ⟨bounds, List.mem_singleton_self _, rfl⟩

theorem ne_nil {bounds : Bounds} {group : List Bounds} (spans : bounds.Spans group) : group ≠ [] := by
  obtain ⟨member, found, -⟩ := spans.top
  exact List.ne_nil_of_mem found

end Bounds.Spans

/-- One of the two sides that a hull chooses from is the side it takes. -/
theorem Bounds.exists_side {group group' : List Bounds} {side : Bounds → Int} {one other chosen : Int}
    (here : ∃ member ∈ group, side member = one) (there : ∃ member ∈ group', side member = other)
    (choice : chosen = one ∨ chosen = other) : ∃ member ∈ group ++ group', side member = chosen := by
  rcases choice with rfl | rfl
  · obtain ⟨member, found, same⟩ := here
    exact ⟨member, List.mem_append_left _ found, same⟩
  · obtain ⟨member, found, same⟩ := there
    exact ⟨member, List.mem_append_right _ found, same⟩

namespace Blob

/-- The hull of two boxes is the smallest rectangle around both of their groups. -/
theorem spans_hull {blob other : Blob} {group group' : List Bounds} (spans : blob.bounds.Spans group)
    (spans' : other.bounds.Spans group') : (blob.hull other).bounds.Spans (group ++ group') := by
  rw [bounds_hull]
  refine ⟨fun member found => ?_, Bounds.exists_side spans.top spans'.top (by simp only [bounds]; omega),
    Bounds.exists_side spans.left spans'.left (by simp only [bounds]; omega),
    Bounds.exists_side spans.bottom spans'.bottom (by simp only [bounds]; omega),
    Bounds.exists_side spans.right spans'.right (by simp only [bounds]; omega)⟩
  rcases List.mem_append.mp found with here | there
  · obtain ⟨top, left, bottom, right⟩ := spans.encloses member here
    simp only [bounds] at top left bottom right
    constructor <;> simp only <;> omega
  · obtain ⟨top, left, bottom, right⟩ := spans'.encloses member there
    simp only [bounds] at top left bottom right
    constructor <;> simp only <;> omega

/-- The members fall into groups, one for each box, and each box is the smallest around its group. -/
def Gathered (members : List Bounds) (boxes : List Blob) : Prop :=
  ∃ groups : List (List Bounds), groups.flatten.Perm members ∧
    List.Forall₂ (fun group box => box.bounds.Spans group) groups boxes

namespace Gathered

variable {members : List Bounds} {boxes : List Blob}

theorem nil : Gathered [] [] := ⟨[], .refl _, .nil⟩

theorem cons (gathered : Gathered members boxes) {bounds : Bounds} (inRange : bounds.InRange) :
    Gathered (bounds :: members) (ofBounds bounds :: boxes) := by
  obtain ⟨groups, all, spanned⟩ := gathered
  refine ⟨[bounds] :: groups, all.cons bounds, .cons ?_ spanned⟩
  rw [inRange.bounds_ofBounds]
  exact .singleton bounds

theorem reorder {boxes' : List Blob} (gathered : Gathered members boxes) (moved : boxes.Perm boxes') :
    Gathered members boxes' := by
  obtain ⟨groups, all, spanned⟩ := gathered
  have across : Relation.Comp (List.Forall₂ _) List.Perm groups boxes' := ⟨boxes, spanned, moved⟩
  rw [List.forall₂_comp_perm_eq_perm_comp_forall₂] at across
  obtain ⟨groups', moved', spanned'⟩ := across
  exact ⟨groups', moved'.flatten.symm.trans all, spanned'⟩

/-- Two boxes that are joined join their groups. -/
theorem join {blob other : Blob} (gathered : Gathered members (blob :: other :: boxes)) :
    Gathered members (blob.hull other :: boxes) := by
  obtain ⟨_, all, spanned⟩ := gathered
  obtain _ | ⟨here, _ | ⟨there, rest⟩⟩ := spanned
  refine ⟨_ :: _, ?_, .cons (spans_hull here there) rest⟩
  simpa using all

/-- Growing the hull keeps the groups of the boxes that are left, and gathers those of the others. -/
theorem run {growth : Growth} (gathered : Gathered members (growth.hull :: growth.kept)) :
    Gathered members (growth.run.hull :: growth.run.kept) :=
  Growth.run_keeps (fun later => Gathered members (later.hull :: later.kept))
    (fun growth _ inside _ held =>
      (held.reorder ((List.getElem_cons_eraseIdx_perm inside).symm.cons growth.hull)).join)
    gathered

theorem merge (gathered : Gathered members boxes) {bounds : Bounds} (inRange : bounds.InRange) :
    Gathered (members ++ [bounds]) (Blob.merge boxes (ofBounds bounds)) := by
  have grown : Gathered (bounds :: members) _ :=
    @Gathered.run _ ⟨boxes, ofBounds bounds, none⟩ (gathered.cons inRange)
  obtain ⟨groups, all, spanned⟩ := grown.reorder (merge_perm boxes (ofBounds bounds)).symm
  exact ⟨groups, all.trans (List.perm_append_singleton ..).symm, spanned⟩

theorem foldl_merge (gathered : Gathered members boxes) {added : List Bounds}
    (inRange : ∀ bounds ∈ added, bounds.InRange) :
    Gathered (members ++ added) ((added.map ofBounds).foldl Blob.merge boxes) := by
  induction added generalizing members boxes with
  | nil => simpa using gathered
  | cons bounds added ih =>
    obtain ⟨first, rest⟩ := List.forall_mem_cons.mp inRange
    rw [List.append_cons]
    exact ih (gathered.merge first) rest

end Gathered

end Blob

def Detector.accepted (detector : Detector) (mask : Mask) : List Bounds :=
  ((detector.measurements mask).map Measurement.bounds).filter (detector.Wants ·)

theorem Detector.inRange_of_measured {detector : Detector} {mask : Mask} (inRange : mask.InRange)
    {bounds : Bounds} (measured : bounds ∈ (detector.measurements mask).map Measurement.bounds) :
    bounds.InRange := by
  obtain ⟨measurement, taken, rfl⟩ := List.mem_map.mp measured
  exact (mem_measurements taken).within.1.inRange inRange.1 inRange.2

theorem Detector.detect_eq_foldl {detector : Detector} (small : detector.maxSize < 2 ^ 31) {mask : Mask}
    (inRange : mask.InRange) :
    detector.detect mask = ((detector.accepted mask).map Blob.ofBounds).foldl Blob.merge [] := by
  have blobs : (detector.measurements mask).map Measurement.blob =
      ((detector.measurements mask).map Measurement.bounds).map Blob.ofBounds := by
    rw [List.map_map]
    rfl
  rw [detect, accepted, blobs, List.filter_map]
  congr 2
  exact List.filter_congr fun bounds measured => accepts_ofBounds small (inRange_of_measured inRange measured)

/-- Merging is lossless: the measured boxes of wanted size fall into groups, none of them empty, and what
is reported are the smallest boxes around these groups. -/
theorem detect_lossless (detector : Detector) (mask : Mask) (inRange : mask.InRange)
    (small : detector.maxSize < 2 ^ 31) :
    ∃ groups : List (List Bounds), groups.flatten.Perm (detector.accepted mask) ∧
      (∀ group ∈ groups, group ≠ []) ∧
      List.Forall₂ (fun group bounds => bounds.Spans group) groups
        ((detector.detect mask).map Blob.bounds) := by
  have exact : ∀ bounds ∈ detector.accepted mask, bounds.InRange := fun bounds member =>
    Detector.inRange_of_measured inRange (List.mem_of_mem_filter member)
  obtain ⟨groups, all, spanned⟩ := Blob.Gathered.nil.foldl_merge exact
  rw [← Detector.detect_eq_foldl small inRange] at spanned
  have filled := (List.forall₂_and_left ..).mp (spanned.imp fun _ _ spans => ⟨spans.ne_nil, spans⟩)
  exact ⟨groups, all, filled.1, List.forall₂_map_right_iff.mpr spanned⟩

/-- Two rectangles, a bracket below them that is measured later and joins both, and one that stands by
itself. -/
def bridged : Mask :=
  Drawing.picture 12 7 [⟨0, 0, 1, 4⟩, ⟨1, 3, 2, 7⟩, ⟨3, 9, 4, 10⟩, ⟨6, 0, 6, 6⟩, ⟨3, 3, 6, 3⟩]

theorem bridged_inRange : bridged.InRange := Drawing.picture_inRange (by decide) (by decide) _

theorem detect_lossless_bridged :
    Detector.fine.accepted bridged = [⟨0, 0, 1, 4⟩, ⟨1, 4, 2, 7⟩, ⟨3, 9, 4, 10⟩, ⟨2, 0, 6, 6⟩] ∧
    (Detector.fine.detect bridged).map Blob.bounds = [⟨0, 0, 6, 7⟩, ⟨3, 9, 4, 10⟩] ∧
    bridged.InRange ∧ Detector.fine.maxSize < 2 ^ 31 ∧
    ∃ groups : List (List Bounds), groups.flatten.Perm (Detector.fine.accepted bridged) ∧
      (∀ group ∈ groups, group ≠ []) ∧
      List.Forall₂ (fun group bounds => bounds.Spans group) groups
        ((Detector.fine.detect bridged).map Blob.bounds) :=
  ⟨by decide +kernel, by decide +kernel, bridged_inRange, by decide,
    detect_lossless Detector.fine bridged bridged_inRange (by decide)⟩

end TouchTracking
