import Mathlib.Data.List.Induction
import TouchTracking.Proofs.Agreement
import TouchTracking.Proofs.Parameters
import TouchTracking.Proofs.Succession

/-! Touches of boxes that are found no more. A box that fades was tracked in the frame before, one pixel larger on
both sides, and was published there unless a side was over the limit by just this pixel. As no box over the limit
is accepted by itself, such a box was last found as the hull of several. -/
namespace TouchTracking

open Raster (Image Mask)

def Raster.Image.Usable (image : Image) : Prop :=
  image.channels = 1 ∧ (image.width ≠ 0 ∧ image.height ≠ 0) ∧ image.width < 2 ^ 31 ∧ image.height < 2 ^ 31

instance (image : Image) : Decidable image.Usable := inferInstanceAs (Decidable (_ ∧ (_ ∧ _) ∧ _ ∧ _))

/-- A box that is over the limit and fits when it has shrunk is over it by one. -/
theorem Blob.largest_of_shrunk {blob : Blob} {largest : Nat} (shrinkable : blob.Shrinkable)
    (wide : blob.shrunk.isEmpty = false) (fits : blob.shrunk.Between 1 largest)
    (excess : ¬ blob.Between 1 largest) : max blob.width blob.height = largest + 1 := by
  obtain ⟨width, height⟩ := sides_of_shrunk shrinkable wide
  simp only [Between, width, height] at fits excess
  omega

namespace Tracker

variable {tracker : Tracker}

theorem mem_touches {width height : Nat} {touch : Touch} (shown : touch ∈ tracker.touches width height) :
    ∃ entry ∈ tracker.tracked, isEmitted tracker.params entry = true ∧ entry.id = touch.id := by
  unfold touches at shown
  split at shown
  · cases shown
  · obtain ⟨entry, emitted, rfl⟩ := List.mem_map.mp shown
    obtain ⟨member, passes⟩ := List.mem_filter.mp emitted
    exact ⟨entry, member, passes, rfl⟩

theorem exists_touch {width height : Nat} (sized : width ≠ 0 ∧ height ≠ 0) {entry : TrackedBlob}
    (member : entry ∈ tracker.tracked) (passes : isEmitted tracker.params entry = true) :
    ∃ touch ∈ tracker.touches width height, touch.id = entry.id := by
  rw [touches, if_neg (not_or.mpr sized)]
  exact ⟨_, List.mem_map_of_mem (List.mem_filter.mpr ⟨member, passes⟩), rfl⟩

theorem journal_append (tracker : Tracker) (past : List Frame) (first second : List Action) :
    tracker.journal past (first ++ second) = (tracker.run first).journal (tracker.journal past first) second := by
  induction first generalizing tracker past with
  | nil => rfl
  | cons action first ih =>
    simp only [List.cons_append, journal, run]
    split <;> apply ih

section Film

variable {images : List Image} {image : Image}

theorem run_film_steady (tracker : Tracker) (images : List Image) :
    (tracker.run (images.map .process)).params = tracker.params ∧
      (tracker.run (images.map .process)).detector = tracker.detector := by
  apply run_steady
  intro action member params same
  obtain ⟨image, -, rfl⟩ := List.mem_map.mp member
  cases same

theorem frame?_process (tracker : Tracker) (single : image.channels = 1)
    (sized : image.width ≠ 0 ∧ image.height ≠ 0) :
    tracker.frame? (.process image) = some (tracker.detector.detect ⟨image, single⟩) := by
  simp only [frame?, if_neg (not_or.mpr sized), Mask.ofImage, dif_pos single]
  rfl

theorem journal_film_append (tracker : Tracker) (images : List Image) (single : image.channels = 1)
    (sized : image.width ≠ 0 ∧ image.height ≠ 0) :
    tracker.journal [] ((images ++ [image]).map .process) =
      ⟨tracker.detector.detect ⟨image, single⟩, tracker.run ((images ++ [image]).map .process)⟩ ::
        tracker.journal [] (images.map .process) := by
  have brought := frame?_process (tracker.run (images.map .process)) single sized
  rw [(run_film_steady tracker images).2] at brought
  rw [List.map_append, journal_append, run_append]
  simp only [List.map_cons, List.map_nil, journal, brought, run]

theorem exists_filmed (masks : ∀ mask ∈ images, mask.Usable) {age : Nat} {frame : Frame}
    (there : (tracker.journal [] (images.map .process))[age]? = some frame) :
    ∃ before picture since, ∃ single : picture.channels = 1, images = before ++ picture :: since ∧
      since.length = age ∧ frame.found = tracker.detector.detect ⟨picture, single⟩ ∧
      frame.after = tracker.run ((before ++ [picture]).map .process) := by
  induction images using List.reverseRecOn generalizing age with
  | nil => cases there
  | append_singleton images image ih =>
    obtain ⟨single, sized, -⟩ := masks image (List.mem_append_right _ (List.mem_singleton_self image))
    rw [journal_film_append tracker images single sized] at there
    cases age with
    | zero =>
      cases there
      exact ⟨images, image, [], single, rfl, rfl, rfl, rfl⟩
    | succ age =>
      obtain ⟨before, picture, since, single', split, length, shows⟩ :=
        ih (fun mask member => masks mask (List.mem_append_left _ member)) there
      refine ⟨before, picture, since ++ [image], single', ?_, ?_, shows⟩
      · rw [split, List.append_assoc, List.cons_append]
      · rw [List.length_append, length, List.length_singleton]

theorem shrinkable_film (masks : ∀ mask ∈ images, mask.Usable) :
    Shrinkable (tracker.journal [] (images.map .process)) := by
  intro frame member blob held
  obtain ⟨age, there⟩ := List.getElem?_of_mem member
  obtain ⟨before, picture, since, single, rfl, -, found, -⟩ := exists_filmed masks there
  have inRange : Mask.InRange ⟨picture, single⟩ := (masks picture (List.mem_append_right _ List.mem_cons_self)).2.2
  exact ((Detector.lies_of_detected inRange (found ▸ held)).exact inRange).2

end Film

/-- A box that is published without being matched was tracked before the frame, and it was to be published then, or
it was over the limit by one. -/
theorem prior_of_unmatched (numbered : Numbered tracker)
    (shrinkable : ∀ prior ∈ tracker.tracked, prior.blob.Shrinkable) (small : tracker.params.maxSize < 2 ^ 31)
    {candidates : List Blob} {width height : Nat} {touch : Touch}
    (shown : touch ∈ (tracker.advance candidates).touches width height) {entry : TrackedBlob}
    (member : entry ∈ (tracker.advance candidates).tracked) (same : entry.id = touch.id)
    (unmatched : entry.matched = false) :
    ∃ prior ∈ tracker.tracked, entry = faded prior ∧ (isEmitted tracker.params prior = true ∨
      max prior.blob.width prior.blob.height = tracker.params.maxSize + 1) := by
  obtain ⟨published, member', passes, same'⟩ := mem_touches shown
  have one : published = entry :=
    (advance_numbered numbered candidates).eq_of_id member' member (same'.trans same.symm)
  obtain ⟨prior, held, wide, rfl⟩ := faded_of_unmatched member unmatched
  refine ⟨prior, held, rfl, ?_⟩
  have fits : prior.blob.shrunk.Between 1 tracker.params.maxSize := by
    change isEmitted tracker.params published = true at passes
    rw [one, isEmitted_of_lt small, decide_eq_true_eq] at passes
    exact passes
  rw [isEmitted_of_lt small, decide_eq_true_eq]
  by_cases before : prior.blob.Between 1 tracker.params.maxSize
  · exact .inl before
  · exact .inr (Blob.largest_of_shrunk (shrinkable prior held) wide fits before)

/-- The entry was last matched as many pictures ago as it is old, to the given box, which was found in that picture:
it has the identity of the entry and its centre, and sides larger by its age; and every picture since has missed it. -/
structure LastFound (tracker : Tracker) (before : List Image) (picture : Image) (since : List Image)
    (entry : TrackedBlob) (box : Blob) : Prop where
  age : since.length = entry.age
  found : ∃ single : picture.channels = 1, box ∈ tracker.detector.detect ⟨picture, single⟩
  matched : ∃ origin ∈ (tracker.run ((before ++ [picture]).map .process)).tracked,
    origin.id = entry.id ∧ origin.matched = true ∧ origin.blob = box
  larger : box = ⟨entry.blob.centerRow, entry.blob.centerColumn, entry.blob.width + entry.age,
    entry.blob.height + entry.age⟩
  missed : ∀ first rest, since = first ++ rest → first ≠ [] →
    ∃ remnant ∈ (tracker.run ((before ++ picture :: first).map .process)).tracked,
      remnant.id = entry.id ∧ remnant.matched = false

/-- In a film every tracked box was last found in one of the pictures. -/
theorem exists_lastFound (fresh : Fresh tracker) {images : List Image} (masks : ∀ mask ∈ images, mask.Usable)
    {entry : TrackedBlob} (member : entry ∈ (tracker.run (images.map .process)).tracked) :
    ∃ before picture since box, images = before ++ picture :: since ∧
      LastFound tracker before picture since entry box := by
  have recorded := recorded_run fresh.recorded (images.map .process)
  obtain ⟨⟨frame, origin, there, kept, same, matched, found, larger⟩, between⟩ :=
    (recorded.traced entry member).origin (shrinkable_film masks)
  obtain ⟨before, picture, since, single, split, length, detected, after⟩ := exists_filmed masks there
  refine ⟨before, picture, since, origin.blob, split, length, ⟨single, detected ▸ found⟩,
    ⟨origin, after ▸ kept, same, matched, rfl⟩, larger, fun first rest parted some_ => ?_⟩
  -- the picture at the end of `first` is followed by `rest`, so that it is `rest.length` pictures ago
  have lengths : first.length + rest.length = entry.age := by rw [← length, parted, List.length_append]
  have ahead := List.length_pos_iff.mpr some_
  obtain ⟨later, remnant, there', kept', same', unmatched⟩ := between rest.length (by omega)
  obtain ⟨before', picture', since', -, split', length', -, after'⟩ := exists_filmed masks there'
  have whole : (before' ++ [picture']) ++ since' = (before ++ picture :: first) ++ rest := by
    rw [List.append_assoc, List.singleton_append, ← split', split, parted]
    simp
  have front := (List.append_inj' whole length').1
  exact ⟨remnant, front ▸ after' ▸ kept', same', unmatched⟩

/-- In a film of masks, a touch of a box that the latest mask does not show had been published with the mask before,
under the same identity, or its box was tracked then and over the limit by one. In this case the box was last
found, as many masks ago as it is old, as one that is over the limit by its age and that is not accepted by itself,
so that it was joined of several. -/
theorem unmatched_touches_continue (fresh : Fresh tracker) (small : tracker.params.maxSize < 2 ^ 31)
    {earlier : List Image} {image : Image} (masks : ∀ mask ∈ earlier ++ [image], mask.Usable) :
    let current := tracker.run (earlier.map .process)
    let maxSize := tracker.params.maxSize
    ∃ touches next, current.process image = .ok (touches, next) ∧
      ∀ touch ∈ touches, ∀ entry ∈ next.tracked, entry.id = touch.id → entry.matched = false →
        ∃ before previous shown, earlier = before ++ [previous] ∧
          (tracker.run (before.map .process)).process previous = .ok (shown, current) ∧
          ∃ prior ∈ current.tracked, prior.id = touch.id ∧ entry = faded prior ∧
            ((∃ record ∈ shown, record.id = touch.id) ∨
              max prior.blob.width prior.blob.height = maxSize + 1 ∧
              ∃ ahead picture since box, earlier = ahead ++ picture :: since ∧
                LastFound tracker ahead picture since prior box ∧
                max box.width box.height = maxSize + entry.age ∧ tracker.detector.accepts box = false) := by
  intro current maxSize
  obtain ⟨masks, latest⟩ := List.forall_mem_append.mp masks
  obtain ⟨single, sized, -⟩ := List.forall_mem_singleton.mp latest
  refine ⟨_, _, current.process_of_mask single sized, ?_⟩
  intro touch shown entry member same unmatched
  have numbered : Numbered current := run_numbered fresh.numbered _
  have params : current.params = tracker.params := (run_film_steady tracker earlier).1
  have recorded := recorded_run fresh.recorded (earlier.map .process)
  have shrinkable : ∀ prior ∈ current.tracked, prior.blob.Shrinkable := fun prior held =>
    (recorded.traced prior held).shrinkable (shrinkable_film masks)
  obtain ⟨prior, held, rfl, seen⟩ :=
    prior_of_unmatched numbered shrinkable (params ▸ small) shown member same unmatched
  rw [params] at seen
  rcases List.eq_nil_or_concat' earlier with rfl | ⟨before, previous, rfl⟩
  · rw [show current.tracked = [] from fresh.blank.1] at held
    cases held
  obtain ⟨single', sized', -⟩ := masks previous (List.mem_append_right _ (List.mem_singleton_self previous))
  have processed := (tracker.run (before.map .process)).process_of_mask single' sized'
  have reached : current = ((tracker.run (before.map .process)).update
      ((tracker.run (before.map .process)).detector.detect ⟨previous, single'⟩) previous.width previous.height).2 := by
    simp only [current, List.map_append, run_append, List.map_cons, List.map_nil, run, perform, processed]
  refine ⟨before, previous, current.touches previous.width previous.height, rfl, ?_, prior, held, same, rfl, ?_⟩
  · rw [processed, reached]
    rfl
  · rcases seen with passes | excess
    · left
      obtain ⟨record, listed, known⟩ := exists_touch sized' held (params ▸ passes)
      exact ⟨record, listed, known.trans same⟩
    · right
      obtain ⟨ahead, picture, since, box, split, last⟩ := exists_lastFound fresh masks held
      have sides : max box.width box.height = maxSize + (faded prior).age := by
        simp only [last.larger, faded]
        omega
      have most := fresh.configured.sizes.2
      refine ⟨excess, ahead, picture, since, box, split, last, sides, ?_⟩
      rw [Detector.accepts_of_lt (most ▸ small), decide_eq_false_iff_not, Blob.Between, most]
      simp only [faded] at sides
      omega

/-- Squares of two and of three pixels a side that share a corner, with another one beside. -/
def joined : Image := (Drawing.picture 9 9 [⟨0, 0, 1, 1⟩, ⟨1, 1, 3, 3⟩, ⟨6, 6, 7, 7⟩]).image

def vanished : Image := (Drawing.picture 9 9 []).image

def narrow : Tracker := ofDetector ⟨2, 3, 2, 3⟩ ⟨2, 3, Nat.two_pos, Nat.le_succ 2⟩

theorem narrow_fresh : Fresh narrow := .made (show ofParams ⟨2, 3, 2, 3⟩ = .ok narrow from rfl)

/-- The touch of the hull begins when it has vanished; that of the single square goes on. -/
theorem unmatched_touches_continue_joined :
    Fresh narrow ∧ narrow.params.maxSize < 2 ^ 31 ∧ (∀ mask ∈ [joined] ++ [vanished], mask.Usable) ∧
    ∃ touches next, (narrow.run ([joined].map .process)).process vanished = .ok (touches, next) ∧
      touches.map (·.id) = [1, 2] ∧ (∀ entry ∈ next.tracked, entry.matched = false) ∧
      ∀ touch ∈ touches, ∃ shown, narrow.process joined = .ok (shown, narrow.run ([joined].map .process)) ∧
        ∃ prior ∈ (narrow.run ([joined].map .process)).tracked, prior.id = touch.id ∧
          ((∃ record ∈ shown, record.id = touch.id) ∨ max prior.blob.width prior.blob.height = 4) := by
  have masks : ∀ mask ∈ [joined] ++ [vanished], mask.Usable := by decide +kernel
  have small : narrow.params.maxSize < 2 ^ 31 := by decide
  obtain ⟨touches, next, processed, continued⟩ := unmatched_touches_continue narrow_fresh small masks
  have outcome : ((narrow.run ([joined].map .process)).process vanished).toOption.map
      (fun result => (result.1.map (·.id), result.2.tracked)) =
      some ([1, 2], [⟨⟨2, 2, 3, 3⟩, 1, 1, false, 0⟩, ⟨⟨7, 7, 1, 1⟩, 2, 1, false, 0⟩]) := by decide +kernel
  rw [processed] at outcome
  obtain ⟨ids, tracked⟩ := Prod.mk.inj (Option.some.inj outcome)
  have unmatched : ∀ entry ∈ next.tracked, entry.matched = false := by simp [tracked]
  refine ⟨narrow_fresh, small, masks, touches, next, processed, ids, unmatched, ?_⟩
  intro touch member
  have known : touch.id ∈ next.tracked.map (·.id) := by
    have listed : touch.id ∈ touches.map (·.id) := List.mem_map_of_mem member
    rw [ids] at listed
    rw [tracked]
    exact listed
  obtain ⟨entry, held, same⟩ := List.mem_map.mp known
  obtain ⟨before, previous, shown, split, earlier, prior, there, identity, -, seen⟩ :=
    continued touch member entry held same (unmatched entry held)
  obtain ⟨rfl, last⟩ := List.append_inj' (show [] ++ [joined] = before ++ [previous] from split) rfl
  obtain rfl := List.singleton_inj.mp last
  exact ⟨shown, earlier, prior, there, identity, seen.imp id And.left⟩

/-- A touch of a box that the latest mask does not show, and of which no touch was published before: the hull of the
first mask is over the limit and fits when it has faded once. -/
theorem touch_of_vanished_hull :
    Fresh narrow ∧ narrow.params.maxSize < 2 ^ 31 ∧
    (∀ mask ∈ [joined, vanished], mask.Usable ∧ joined.sameSize mask = true) ∧
    ∃ shown current, narrow.process joined = .ok (shown, current) ∧
      ∃ touches next, current.process vanished = .ok (touches, next) ∧
        ∃ touch ∈ touches, ∃ entry ∈ next.tracked, entry.id = touch.id ∧ entry.matched = false ∧ entry.age = 1 ∧
          ∀ record ∈ shown, record.id ≠ touch.id := by
  refine ⟨narrow_fresh, by decide, by decide +kernel, _, _, narrow.process_of_mask ?single ?sized,
    _, _, process_of_mask _ ?single' ?sized', ?_⟩
  all_goals decide +kernel

end Tracker
end TouchTracking
