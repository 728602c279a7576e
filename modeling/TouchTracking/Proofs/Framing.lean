import TouchTracking.Proofs.Extents
import TouchTracking.Proofs.Shares
import TouchTracking.Proofs.Succession

/-! What is tracked lies in the frame. A box of the frame does, whatever it was joined from, and around its centre
a box shrinks within its own sides, so that no request ever moves a box out of frames that all have one size. -/
namespace TouchTracking

open Raster (Image Mask)
open Binary (Single)

namespace Blob

variable {height width : Nat} {blob other : Blob}

structure Centered (height width : Nat) (blob : Blob) : Prop where
  row_nonneg : 0 ≤ blob.centerRow
  row_lt : blob.centerRow < height
  column_nonneg : 0 ≤ blob.centerColumn
  column_lt : blob.centerColumn < width

theorem Lies.centered (lies : blob.Lies height width) (narrow : width < 2 ^ 31) (low : height < 2 ^ 31) :
    blob.Centered height width := by
  obtain ⟨⟨row, column⟩, wide, high⟩ := lies.held.fields (lies.within.inRange narrow low)
  obtain ⟨top, rows, bottom, left, columns, right⟩ := lies.within
  simp only [bounds] at top rows bottom left columns right
  constructor <;> omega

/-- A pixel goes on the far side of an even extent and on the near side of an odd one. -/
theorem Lies.shrunk (lies : blob.Lies height width) (narrow : width < 2 ^ 31) (low : height < 2 ^ 31)
    (wide : blob.shrunk.isEmpty = false) : blob.shrunk.Lies height width := by
  refine ⟨lies.held.shrunk, ?_⟩
  obtain ⟨inRange, shrinkable⟩ := lies.exact ⟨narrow, low⟩
  obtain ⟨across, down⟩ := (isEmpty_eq_false_iff _).mp wide
  obtain ⟨narrower, lower⟩ := sides_of_shrunk shrinkable wide
  have half_height : blob.height.tdiv 2 = blob.height / 2 := half_of_nonneg (by omega)
  have half_width : blob.width.tdiv 2 = blob.width / 2 := half_of_nonneg (by omega)
  have half_lower : (blob.height - 1).tdiv 2 = (blob.height - 1) / 2 := half_of_nonneg (by omega)
  have half_narrower : (blob.width - 1).tdiv 2 = (blob.width - 1) / 2 := half_of_nonneg (by omega)
  have row_kept : blob.shrunk.centerRow = blob.centerRow := rfl
  have column_kept : blob.shrunk.centerColumn = blob.centerColumn := rfl
  have within := lies.within
  rw [inRange.bounds_eq, half_height, half_width] at within
  obtain ⟨top, rows, bottom, left, columns, right⟩ := within
  simp only at top rows bottom left columns right
  rw [(inRange.shrunk shrinkable wide).bounds_eq]
  constructor <;> simp only [row_kept, column_kept, narrower, lower, half_lower, half_narrower] <;> omega

end Blob

namespace Tracker

variable {height width : Nat}

/-- Frames of one size, of which each may be refused for its channels; in between the parameters may be changed and
what is tracked may be forgotten. -/
def Action.OfSize (height width : Nat) : Action → Prop
  | .process image => image.height = height ∧ image.width = width
  | .update .. => False
  | .setParams _ => True
  | .clear => True

def Framed (height width : Nat) (tracker : Tracker) : Prop :=
  ∀ entry ∈ tracker.tracked, entry.blob.Lies height width

section Frame

variable (narrow : width < 2 ^ 31) (low : height < 2 ^ 31)

include narrow low

theorem framed_advance {tracker : Tracker} (framed : tracker.Framed height width) {candidates : List Blob}
    (found : ∀ blob ∈ candidates, blob.Lies height width) :
    (tracker.advance candidates).Framed height width := by
  intro entry member
  cases succeeds member with
  | inherited prior blob held listed => exact found blob listed
  | appeared blob id listed => exact found blob listed
  | faded prior held young wide => exact (framed prior held).shrunk narrow low wide

theorem framed_perform {tracker : Tracker} (framed : tracker.Framed height width) {action : Action}
    (sized : action.OfSize height width) : (tracker.perform action).2.Framed height width := by
  cases action with
  | process image =>
    obtain ⟨rfl, rfl⟩ := sized
    cases processed : tracker.process image with
    | error => simpa only [perform, processed] using framed
    | ok result =>
      obtain ⟨mask, masked, advanced, -⟩ := process_ok processed
      simp only [perform, processed, advanced]
      refine framed_advance narrow low framed fun blob found => ?_
      have taken : mask.image = image := by
        unfold Mask.ofImage at masked
        split at masked <;> cases masked
        rfl
      subst taken
      exact Detector.lies_of_detected ⟨narrow, low⟩ found
  | update => exact sized.elim
  | setParams params =>
    cases configured : tracker.setParams params with
    | error => simpa only [perform, configured] using framed
    | ok next =>
      obtain ⟨detector, -, rfl⟩ := setParams_ok configured
      simp only [perform, configured]
      exact framed
  | clear => exact List.forall_mem_nil _

theorem framed_run {tracker : Tracker} (framed : tracker.Framed height width) {actions : List Action}
    (sized : ∀ action ∈ actions, action.OfSize height width) : (tracker.run actions).Framed height width := by
  induction actions generalizing tracker with
  | nil => exact framed
  | cons action actions ih =>
    obtain ⟨first, rest⟩ := List.forall_mem_cons.mp sized
    exact ih (framed_perform narrow low framed first) rest

end Frame

/-- In frames of one size, whatever they show, all that is tracked lies in the frame, and so does the centre from which
its touch is placed: no share is ever kept from leaving the frame. -/
theorem tracked_in_frame {tracker : Tracker} (fresh : Fresh tracker) {height width : Nat} (low : height < 2 ^ 31)
    (narrow : width < 2 ^ 31) {actions : List Action} (sized : ∀ action ∈ actions, action.OfSize height width) :
    ∀ entry ∈ (tracker.run actions).tracked, entry.blob.bounds.Within height width ∧
      entry.blob.Centered height width ∧ Touch.Inside entry.blob.centerRow height ∧
      Touch.Inside entry.blob.centerColumn width := by
  intro entry member
  have blank : tracker.Framed height width := by
    intro entry member
    rw [fresh.blank.1] at member
    cases member
  have lies := framed_run narrow low blank sized entry member
  have centered := lies.centered narrow low
  exact ⟨lies.within, centered, Touch.inside_of_lt centered.row_nonneg centered.row_lt low,
    Touch.inside_of_lt centered.column_nonneg centered.column_lt narrow⟩

/-- Two squares in a corner are joined, and what is left of the hull shrinks there while the parameters change. -/
def cornered : List Action :=
  [.process (Drawing.picture 10 10 [⟨6, 6, 7, 7⟩, ⟨7, 7, 9, 9⟩]).image, .setParams ⟨3, 5, 1, 4⟩,
    .process (Drawing.picture 10 10 []).image]

theorem tracked_in_frame_cornered :
    Fresh standard ∧ (∀ action ∈ .setParams ⟨2, 3, 2, 3⟩ :: cornered, action.OfSize 10 10) ∧
    (standard.run (.setParams ⟨2, 3, 2, 3⟩ :: cornered)).tracked = [⟨⟨8, 8, 3, 3⟩, 1, 1, false, 0⟩] ∧
    (⟨8, 8, 3, 3⟩ : Blob).bounds.Within 10 10 ∧ (⟨8, 8, 3, 3⟩ : Blob).Centered 10 10 ∧ Touch.Inside 8 10 := by
  have sized : ∀ action ∈ .setParams ⟨2, 3, 2, 3⟩ :: cornered, action.OfSize 10 10 := by
    have size (rects : List Bounds) : (Action.process (Drawing.picture 10 10 rects).image).OfSize 10 10 :=
      (Drawing.size_picture 10 10 rects).symm
    simp only [cornered, List.forall_mem_cons, List.not_mem_nil, false_imp_iff, implies_true, and_true]
    exact ⟨trivial, size _, trivial, size _⟩
  have tracked : (standard.run (.setParams ⟨2, 3, 2, 3⟩ :: cornered)).tracked =
      [⟨⟨8, 8, 3, 3⟩, 1, 1, false, 0⟩] := by decide +kernel
  have lies := tracked_in_frame .standard (by decide) (by decide) sized ⟨⟨8, 8, 3, 3⟩, 1, 1, false, 0⟩
  rw [tracked] at lies
  obtain ⟨within, centered, row, -⟩ := lies (List.mem_singleton_self _)
  exact ⟨.standard, sized, tracked, within, centered, row⟩

def row (last : Nat) : Mask := Drawing.picture (last + 1) 1 [⟨0, last, 0, last⟩]

def pixelwise : Tracker := ofDetector ⟨1, 1, 2, 3⟩ ⟨1, 1, Nat.le_refl 1, Nat.le_refl 1⟩

theorem process_row {last : Nat} (narrow : last + 1 < 2 ^ 31) :
    pixelwise.process (row last).image = .ok (pixelwise.update [⟨0, last, 1, 1⟩] (last + 1) 1) := by
  have drawing : Drawing (row last) [⟨0, last, 0, last⟩] := by
    refine .of_picture narrow (by decide) ?_ ?_ (List.pairwise_singleton ..) <;> intro bounds member <;>
      rw [List.mem_singleton.mp member]
    · exact ⟨Int.le_refl _, Int.le_refl _⟩
    · simp only
      omega
  have inRange : (row last).InRange := Drawing.picture_inRange narrow (by decide) _
  have wanted : pixelwise.detector.Wants ⟨0, last, 0, last⟩ := by
    simp only [Detector.Wants, pixelwise, ofDetector]
    omega
  have found := drawing.detect_alone inRange wanted (show 1 < 2 ^ 31 by decide)
  have exact := drawing.inRange inRange (List.mem_singleton_self _)
  have box : Blob.ofBounds ⟨0, last, 0, last⟩ = ⟨0, last, 1, 1⟩ := by
    rw [exact.ofBounds_eq]
    simp only [Blob.mk.injEq]
    omega
  have masked : Mask.ofImage (row last).image = .ok (row last) := dif_pos (row last).channels_eq
  obtain ⟨width, height⟩ := Drawing.size_picture (last + 1) 1 [⟨0, last, 0, last⟩]
  change (row last).image.width = _ at width
  change (row last).image.height = _ at height
  rw [process, masked, width, height, if_neg (by omega)]
  simp only [found, box]

/-- The last pixel of a row is found and tracked. -/
theorem run_row {last : Nat} (narrow : last + 1 < 2 ^ 31) :
    (Action.process (row last).image).OfSize 1 (last + 1) ∧
      (pixelwise.run [.process (row last).image]).tracked = [⟨⟨0, last, 1, 1⟩, 1, 0, true, 0⟩] := by
  refine ⟨(Drawing.size_picture (last + 1) 1 [⟨0, last, 0, last⟩]).symm, ?_⟩
  simp only [run, perform, process_row narrow]
  rfl

/-- The last pixel of a row is in the frame, and still its share is one, as the pixel and the extent of the row are
rounded to the same number. -/
theorem share_one_row :
    Fresh pixelwise ∧ (Action.process (row (2 ^ 24)).image).OfSize 1 (2 ^ 24 + 1) ∧
    (pixelwise.run [.process (row (2 ^ 24)).image]).tracked = [⟨⟨0, (2 ^ 24 : Nat), 1, 1⟩, 1, 0, true, 0⟩] ∧
    Single.ofInt (2 ^ 24) / Single.ofInt (2 ^ 24 + 1) = Single.one := by
  have fresh : Fresh pixelwise := .made (show ofParams ⟨1, 1, 2, 3⟩ = .ok pixelwise from rfl)
  obtain ⟨sized, tracked⟩ := @run_row (2 ^ 24) (by norm_num)
  exact ⟨fresh, sized, tracked, by decide +kernel⟩

end Tracker

end TouchTracking
