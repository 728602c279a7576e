import TouchTracking.Proofs.Assignment
import TouchTracking.Proofs.Runs

/-! How a box fades that is found no more. Each frame that misses it takes a pixel off both of its sides and adds
one to its age, so the age counts the frames since a box was last found for it, and what is left of the box tells
its size at that time. -/
namespace TouchTracking.Tracker

open Raster (Image Mask)

/-- The boxes of the frame that a request brings, if it brings a frame. -/
def frame? (tracker : Tracker) : Action → Option (List Blob)
  | .process image =>
    if image.width = 0 ∨ image.height = 0 then none
    else (Mask.ofImage image).toOption.map tracker.detector.detect
  | .update candidates _ _ => some candidates
  | .setParams _ => none
  | .clear => none

/-- A frame of a run: the boxes found in it, and the tracker after it. -/
structure Frame where
  found : List Blob
  after : Tracker

/-- The frames of a run, the latest first, in front of those that were before. -/
def journal (tracker : Tracker) (past : List Frame) : List Action → List Frame
  | [] => past
  | action :: actions =>
    let next := (tracker.perform action).2
    match tracker.frame? action with
    | none => journal next past actions
    | some found => journal next (⟨found, next⟩ :: past) actions

theorem perform_of_frame {tracker : Tracker} {action : Action} {found : List Blob}
    (brought : tracker.frame? action = some found) :
    (tracker.perform action).2 = tracker.advance found := by
  cases action with
  | process image =>
    simp only [frame?] at brought
    split at brought
    next => cases brought
    next sized =>
      obtain ⟨mask, masked, rfl⟩ := Option.map_eq_some_iff.mp brought
      cases made : Mask.ofImage image with
      | error => rw [made] at masked; cases masked
      | ok mask' =>
        rw [made] at masked
        cases masked
        simp only [perform, process, if_neg sized, made]
        rfl
  | update candidates =>
    cases brought
    rfl
  | setParams | clear => cases brought

theorem perform_of_no_frame {tracker : Tracker} {action : Action} (none : tracker.frame? action = none) :
    (tracker.perform action).2.arena = tracker.arena ∨ (tracker.perform action).2.arena = Arena.empty := by
  cases action with
  | process image =>
    refine .inl ?_
    simp only [frame?] at none
    by_cases empty : image.width = 0 ∨ image.height = 0
    · simp only [perform, process, if_pos empty]
    · rw [if_neg empty, Option.map_eq_none_iff] at none
      cases made : Mask.ofImage image with
      | error => simp only [perform, process, if_neg empty, made]
      | ok => rw [made] at none; cases none
  | update => cases none
  | setParams params =>
    refine .inl ?_
    simp only [perform]
    split
    next granted =>
      obtain ⟨_, -, rfl⟩ := setParams_ok granted
      rfl
    next => rfl
  | clear => exact .inr rfl

theorem keepApart_subset (kept blobs : List Blob) : Blob.keepApart kept blobs ⊆ blobs := by
  induction blobs generalizing kept with
  | nil => exact List.Subset.refl _
  | cons blob blobs ih =>
    rw [Blob.keepApart]
    split
    · exact List.subset_cons_of_subset _ (ih _)
    · exact List.cons_subset_cons _ (ih _)

theorem mem_named {minAge nextId : Nat} {pairs : List (Blob × Option TrackedBlob)} {entry : TrackedBlob}
    (member : entry ∈ named minAge nextId pairs) :
    entry.matched = true ∧ entry.age = 0 ∧ entry.blob ∈ pairs.map Prod.fst := by
  induction pairs generalizing nextId with
  | nil => cases member
  | cons pair pairs ih =>
    obtain ⟨blob, prior | prior⟩ := pair
    all_goals
      rcases List.mem_cons.mp member with rfl | later
      · exact ⟨rfl, rfl, List.mem_cons_self⟩
      · obtain ⟨matched, young, found⟩ := ih later
        exact ⟨matched, young, List.mem_cons_of_mem _ found⟩

theorem lasts_iff (maxAge : Nat) (accepted : List Blob) (prior : TrackedBlob) :
    lasts maxAge accepted prior = true ↔
      prior.age + 1 ≤ maxAge ∧ prior.blob.shrunk.isEmpty = false ∧
        ∀ blob ∈ accepted, blob.overlaps prior.blob.shrunk = false := by
  simp [lasts, and_assoc]

/-- After a frame there are entries of its boxes in front, and then what remains of entries from before. -/
theorem tracked_advance_split (tracker : Tracker) (candidates : List Blob) :
    ∃ fresh left : List TrackedBlob, (tracker.advance candidates).tracked = fresh ++ left.map faded ∧
      (∀ entry ∈ fresh, entry.matched = true ∧ entry.age = 0 ∧ entry.blob ∈ candidates) ∧
      ∀ prior ∈ left, prior ∈ tracker.tracked ∧ prior.age + 1 ≤ tracker.params.maxAge ∧
        prior.blob.shrunk.isEmpty = false := by
  refine ⟨_, _, (tracked_advance_described tracker candidates).1, fun entry member => ?_,
    fun prior member => ?_⟩
  · obtain ⟨matched, young, found⟩ := mem_named member
    rw [List.map_fst_zip (Nat.le_of_eq (length_claims ..).symm)] at found
    exact ⟨matched, young, keepApart_subset _ _ found⟩
  · obtain ⟨free, lasting⟩ := List.mem_filter.mp member
    obtain ⟨young, wide, -⟩ := (lasts_iff ..).mp lasting
    exact ⟨(unclaimed_sublist ..).subset free, young, wide⟩

/-- An entry and the frames up to now: the latest one found the box that it holds, or the entry is what this
frame left of one that was traced through those before. -/
inductive Traced : List Frame → TrackedBlob → Prop
  | matched {frame : Frame} {past : List Frame} {entry : TrackedBlob} (matched : entry.matched = true)
      (young : entry.age = 0) (found : entry.blob ∈ frame.found) (kept : entry ∈ frame.after.tracked) :
      Traced (frame :: past) entry
  | faded {frame : Frame} {past : List Frame} {prior : TrackedBlob} (traced : Traced past prior)
      (wide : prior.blob.shrunk.isEmpty = false) (kept : faded prior ∈ frame.after.tracked) :
      Traced (frame :: past) (faded prior)

/-- Every box that a frame has found can lose a pixel. -/
def Shrinkable (past : List Frame) : Prop := ∀ frame ∈ past, ∀ blob ∈ frame.found, blob.Shrinkable

/-- What is left of a box that could lose a pixel can lose another one. -/
theorem Traced.shrinkable {past : List Frame} {entry : TrackedBlob} (traced : Traced past entry)
    (shrinkable : Shrinkable past) : entry.blob.Shrinkable := by
  induction traced with
  | matched _ _ found => exact shrinkable _ List.mem_cons_self _ found
  | faded _ _ _ ih => exact (ih fun frame member => shrinkable frame (List.mem_cons_of_mem _ member)).shrunk

/-- As many frames ago as the entry is old its box was found, larger by as much, and since then it was missed. -/
theorem Traced.origin {past : List Frame} {entry : TrackedBlob} (traced : Traced past entry)
    (shrinkable : Shrinkable past) :
    (∃ frame origin, past[entry.age]? = some frame ∧ origin ∈ frame.after.tracked ∧ origin.id = entry.id ∧
      origin.matched = true ∧ origin.blob ∈ frame.found ∧
      origin.blob = ⟨entry.blob.centerRow, entry.blob.centerColumn, entry.blob.width + entry.age,
        entry.blob.height + entry.age⟩) ∧
    ∀ since < entry.age, ∃ frame remnant, past[since]? = some frame ∧ remnant ∈ frame.after.tracked ∧
      remnant.id = entry.id ∧ remnant.matched = false := by
  induction traced with
  | @matched frame past entry matched young found kept =>
    refine ⟨⟨frame, entry, by rw [young]; rfl, kept, rfl, matched, found, by simp [young]⟩, ?_⟩
    rw [young]
    nofun
  | @faded frame past prior traced wide kept ih =>
    have before : Shrinkable past := fun frame member => shrinkable frame (List.mem_cons_of_mem _ member)
    obtain ⟨⟨earlier, origin, there, held, same, matched, found, larger⟩, between⟩ := ih before
    obtain ⟨width, height⟩ := Blob.sides_of_shrunk (traced.shrinkable before) wide
    refine ⟨⟨earlier, origin, there, held, same, matched, found, ?_⟩, fun since bound => ?_⟩
    · rw [larger]
      simp only [Tracker.faded, width, height, Blob.mk.injEq]
      exact ⟨rfl, rfl, by omega, by omega⟩
    · cases since with
      | zero => exact ⟨frame, Tracker.faded prior, rfl, kept, rfl, rfl⟩
      | succ since => exact between since (Nat.lt_of_succ_lt_succ bound)

/-- What holds of a tracker and the frames of its run: no slot is empty, matched entries stand in front, every
entry can be traced back, and none is older than the latest frame allowed. -/
structure Recorded (tracker : Tracker) (past : List Frame) : Prop where
  compact : tracker.arena.slots = tracker.tracked.map some
  sorted : tracker.tracked.Pairwise fun entry later => later.matched = true → entry.matched = true
  traced : ∀ entry ∈ tracker.tracked, Traced past entry
  young : ∀ frame ∈ past.head?, ∀ entry ∈ tracker.tracked, entry.age ≤ frame.after.params.maxAge

theorem recorded_advance {tracker : Tracker} {past : List Frame} (recorded : Recorded tracker past)
    (candidates : List Blob) :
    Recorded (tracker.advance candidates)
      (⟨candidates, tracker.advance candidates⟩ :: past) := by
  obtain ⟨fresh, left, tracked, boxes, remains⟩ := tracked_advance_split tracker candidates
  refine ⟨?_, ?_, fun entry member => ?_, fun frame latest entry member => ?_⟩
  · rw [tracked_advance]
    simp only [advance_eq, Arena.endFrame, Arena.entries_filterMapEntries]
  · rw [tracked, List.pairwise_append]
    refine ⟨List.pairwise_of_forall_mem_list fun entry member _ _ _ => (boxes entry member).1, ?_,
      fun entry member _ _ _ => (boxes entry member).1⟩
    rw [List.pairwise_map]
    exact List.pairwise_of_forall fun _ _ matched => absurd matched Bool.false_ne_true
  · have kept := member
    rw [tracked] at member
    rcases List.mem_append.mp member with new | old
    · obtain ⟨matched, young, found⟩ := boxes entry new
      exact .matched matched young found kept
    · obtain ⟨prior, listed, rfl⟩ := List.mem_map.mp old
      obtain ⟨held, -, wide⟩ := remains prior listed
      exact .faded (recorded.traced prior held) wide kept
  · cases latest
    rw [tracked] at member
    rcases List.mem_append.mp member with new | old
    · rw [(boxes entry new).2.1]
      exact Nat.zero_le _
    · obtain ⟨prior, listed, rfl⟩ := List.mem_map.mp old
      exact (remains prior listed).2.1

theorem recorded_run {tracker : Tracker} {past : List Frame} (recorded : Recorded tracker past)
    (actions : List Action) : Recorded (tracker.run actions) (tracker.journal past actions) := by
  induction actions generalizing tracker past with
  | nil => exact recorded
  | cons action actions ih =>
    rw [run, journal]
    cases brought : tracker.frame? action with
    | some found =>
      refine ih ?_
      rw [perform_of_frame brought]
      exact recorded_advance recorded found
    | none =>
      refine ih ?_
      rcases perform_of_no_frame brought with same | forgotten
      · have tracked : (tracker.perform action).2.tracked = tracker.tracked := by
          rw [Tracker.tracked, same, Tracker.tracked]
        exact ⟨by rw [same, tracked, recorded.compact], tracked ▸ recorded.sorted,
          tracked ▸ recorded.traced, tracked ▸ recorded.young⟩
      · have tracked : (tracker.perform action).2.tracked = [] := by
          rw [Tracker.tracked, forgotten]
          rfl
        have nothing (entry : TrackedBlob) : entry ∉ (tracker.perform action).2.tracked :=
          tracked ▸ List.not_mem_nil
        exact ⟨by rw [forgotten, tracked]; rfl, tracked ▸ .nil,
          fun entry member => absurd member (nothing entry),
          fun _ _ entry member => absurd member (nothing entry)⟩

theorem subset_journal (tracker : Tracker) (past : List Frame) (actions : List Action) :
    past ⊆ tracker.journal past actions := by
  induction actions generalizing tracker past with
  | nil => exact List.Subset.refl _
  | cons action actions ih =>
    rw [journal]
    split
    · exact ih _ _
    · exact List.subset_of_cons_subset (ih _ _)

/-- What every frame of such boxes keeps, and what depends on the tracked list only and holds when it is empty, a run
in which all frames bring such boxes keeps. -/
theorem run_keeps (property : Tracker → Prop) {wanted : Blob → Prop}
    (advanced : ∀ tracker candidates, property tracker → (∀ blob ∈ candidates, wanted blob) →
      property (tracker.advance candidates))
    (same : ∀ tracker next : Tracker, property tracker → next.tracked = tracker.tracked → property next)
    (forgotten : ∀ next : Tracker, next.tracked = [] → property next)
    {tracker : Tracker} {past : List Frame} {actions : List Action} (start : property tracker)
    (found : ∀ frame ∈ tracker.journal past actions, ∀ blob ∈ frame.found, wanted blob) :
    property (tracker.run actions) := by
  induction actions generalizing tracker past with
  | nil => exact start
  | cons action actions ih =>
    rw [journal] at found
    rw [run]
    cases brought : tracker.frame? action with
    | some boxes =>
      simp only [brought] at found
      have held : ∀ blob ∈ boxes, wanted blob := found _ (subset_journal _ _ _ List.mem_cons_self)
      refine ih ?_ found
      rw [perform_of_frame brought]
      exact advanced tracker boxes start held
    | none =>
      simp only [brought] at found
      refine ih ?_ found
      rcases perform_of_no_frame brought with kept | empty
      · exact same tracker _ start (by rw [tracked, kept, tracked])
      · exact forgotten _ (by rw [tracked, empty]; rfl)

def fadedFor (frames : Nat) (entry : TrackedBlob) : TrackedBlob :=
  ⟨⟨entry.blob.centerRow, entry.blob.centerColumn, entry.blob.width - frames, entry.blob.height - frames⟩,
    entry.id, entry.age + frames, entry.matched && frames == 0, entry.maturity⟩

def outlives (maxAge frames : Nat) (entry : TrackedBlob) : Bool :=
  entry.age + frames ≤ maxAge && frames < min entry.blob.width entry.blob.height

def blanks (sizes : List (Nat × Nat)) : List Action := sizes.map fun size => .update [] size.1 size.2

theorem outlives_iff (maxAge frames : Nat) (entry : TrackedBlob) :
    outlives maxAge frames entry = true ↔
      entry.age + frames ≤ maxAge ∧ frames < entry.blob.width ∧ frames < entry.blob.height := by
  simp only [outlives, Bool.and_eq_true, decide_eq_true_eq, Int.lt_min]

theorem outlives_one (maxAge : Nat) {entry : TrackedBlob} (shrinkable : entry.blob.Shrinkable) :
    outlives maxAge 1 entry = lasts maxAge [] entry := by
  rw [Bool.eq_iff_iff, outlives_iff, lasts_iff, Blob.isEmpty_eq_false_iff, shrinkable.shrunk_eq]
  simp only [Blob.lessened, List.not_mem_nil, false_implies, implies_true, and_true]
  omega

theorem fadedFor_one {entry : TrackedBlob} (shrinkable : entry.blob.Shrinkable)
    (wide : entry.blob.shrunk.isEmpty = false) : fadedFor 1 entry = faded entry := by
  obtain ⟨width, height⟩ := Blob.sides_of_shrunk shrinkable wide
  have blob : entry.blob.shrunk = ⟨entry.blob.centerRow, entry.blob.centerColumn, entry.blob.width - 1,
      entry.blob.height - 1⟩ := by
    rw [← width, ← height]
    rfl
  simp [fadedFor, faded, blob]

theorem tracked_advance_nil {tracker : Tracker} (shrinkable : ∀ entry ∈ tracker.tracked, entry.blob.Shrinkable) :
    (tracker.advance []).tracked =
      (tracker.tracked.filter (outlives tracker.params.maxAge 1)).map (fadedFor 1) := by
  have described : (tracker.advance []).tracked =
      (tracker.tracked.filter (lasts tracker.params.maxAge [])).map faded :=
    (tracked_advance_described tracker []).1
  have alike : tracker.tracked.filter (outlives tracker.params.maxAge 1) =
      tracker.tracked.filter (lasts tracker.params.maxAge []) :=
    List.filter_congr fun entry member => outlives_one _ (shrinkable entry member)
  rw [described, alike]
  refine (List.map_congr_left fun entry member => ?_).symm
  obtain ⟨held, lasting⟩ := List.mem_filter.mp member
  exact fadedFor_one (shrinkable entry held) ((lasts_iff ..).mp lasting).2.1

theorem shrinkable_advance_nil {tracker : Tracker} (shrinkable : ∀ entry ∈ tracker.tracked, entry.blob.Shrinkable) :
    ∀ entry ∈ (tracker.advance []).tracked, entry.blob.Shrinkable := by
  intro entry member
  obtain ⟨fresh, left, tracked, boxes, remains⟩ := tracked_advance_split tracker []
  rw [tracked] at member
  rcases List.mem_append.mp member with new | old
  · exact absurd (boxes entry new).2.2 List.not_mem_nil
  · obtain ⟨prior, listed, rfl⟩ := List.mem_map.mp old
    exact (shrinkable prior (remains prior listed).1).shrunk

theorem outlives_fadedFor (maxAge frames more : Nat) (entry : TrackedBlob) :
    outlives maxAge frames (fadedFor more entry) = outlives maxAge (more + frames) entry := by
  rw [Bool.eq_iff_iff, outlives_iff, outlives_iff]
  simp only [fadedFor]
  omega

theorem fadedFor_fadedFor (frames more : Nat) (entry : TrackedBlob) :
    fadedFor frames (fadedFor more entry) = fadedFor (more + frames) entry := by
  have none_left : (more == 0 && frames == 0) = (more + frames == 0) := by
    rw [Bool.eq_iff_iff]
    simp
  simp only [fadedFor, Bool.and_assoc, none_left, TrackedBlob.mk.injEq, Blob.mk.injEq, true_and, and_true]
  omega

theorem outlives_mono {maxAge frames more : Nat} {entry : TrackedBlob} (fewer : more ≤ frames)
    (longer : outlives maxAge frames entry = true) : outlives maxAge more entry = true := by
  rw [outlives_iff] at longer ⊢
  omega

theorem tracked_run_blanks {tracker : Tracker} (shrinkable : ∀ entry ∈ tracker.tracked, entry.blob.Shrinkable)
    {sizes : List (Nat × Nat)} (some_ : sizes ≠ []) :
    (tracker.run (blanks sizes)).tracked =
      (tracker.tracked.filter (outlives tracker.params.maxAge sizes.length)).map (fadedFor sizes.length) := by
  induction sizes generalizing tracker with
  | nil => exact absurd rfl some_
  | cons size sizes ih =>
    have first : tracker.run (blanks (size :: sizes)) = (tracker.advance []).run (blanks sizes) := rfl
    cases sizes with
    | nil => exact tracked_advance_nil shrinkable
    | cons next sizes =>
      have params : (tracker.advance []).params = tracker.params := rfl
      rw [first, ih (shrinkable_advance_nil shrinkable) (List.cons_ne_nil _ _), params,
        tracked_advance_nil shrinkable, List.filter_map, List.map_map,
        List.filter_filter]
      have length : (size :: next :: sizes).length = 1 + (next :: sizes).length := Nat.add_comm ..
      rw [length]
      congr 1
      · funext entry
        exact fadedFor_fadedFor ..
      · refine List.filter_congr fun entry _ => ?_
        rw [Function.comp_apply, outlives_fadedFor, Bool.and_eq_left_iff_imp]
        exact outlives_mono (Nat.le_add_right ..)

theorem tracked_blanks_of_lasting {tracker : Tracker}
    (shrinkable : ∀ entry ∈ tracker.tracked, entry.blob.Shrinkable) {sizes : List (Nat × Nat)}
    (lasting : sizes ≠ [] ∨ ∀ entry ∈ tracker.tracked, outlives tracker.params.maxAge 0 entry = true) :
    (tracker.run (blanks sizes)).tracked =
      (tracker.tracked.filter (outlives tracker.params.maxAge sizes.length)).map (fadedFor sizes.length) := by
  rcases lasting with some_ | all
  · exact tracked_run_blanks shrinkable some_
  · cases sizes with
    | nil =>
      have kept : fadedFor 0 = id := by
        funext entry
        simp [fadedFor]
      rw [List.length_nil, kept, List.map_id, List.filter_eq_self.mpr all]
      rfl
    | cons size sizes => exact tracked_run_blanks shrinkable (List.cons_ne_nil size sizes)

theorem Fresh.arena {tracker : Tracker} (fresh : Fresh tracker) : tracker.arena = Arena.empty := by
  cases fresh with
  | standard => rfl
  | @made params _ granted =>
    unfold ofParams at granted
    cases made : params.detector with
    | error => rw [made] at granted; cases granted
    | ok detector => rw [made] at granted; cases granted; rfl

theorem Fresh.recorded {tracker : Tracker} (fresh : Fresh tracker) : Recorded tracker [] := by
  have tracked : tracker.tracked = [] := fresh.blank.1
  exact ⟨by rw [fresh.arena, tracked]; rfl, tracked ▸ .nil, tracked ▸ nofun, nofun⟩

/-- After every request of every run in which boxes can lose a pixel: no slot is empty, and no matched entry stands
behind one that is not. An entry is matched and without age, its box one of the latest frame; or it is not matched,
no older than this frame allowed, and as many frames ago as it is old its box was found around the same centre,
larger by its age on both sides, while every frame since has missed it. Frames without boxes that follow leave just
those entries that do not become too old and keep some of both sides, in their order, each of them shrunk and aged
by the number of frames. -/
theorem fades_with_age {tracker : Tracker} (fresh : Fresh tracker) (actions : List Action)
    (shrinkable : Shrinkable (tracker.journal [] actions)) :
    let final := tracker.run actions
    let past := tracker.journal [] actions
    final.arena.slots = final.tracked.map some ∧
    (final.tracked.Pairwise fun entry later => later.matched = true → entry.matched = true) ∧
    (∀ entry ∈ final.tracked, ∃ latest, past.head? = some latest ∧
      (entry.matched = true ∧ entry.age = 0 ∧ entry.blob ∈ latest.found ∨
        entry.matched = false ∧ 1 ≤ entry.age ∧ entry.age ≤ latest.after.params.maxAge ∧
        (∃ frame origin, past[entry.age]? = some frame ∧ origin ∈ frame.after.tracked ∧
          origin.id = entry.id ∧ origin.matched = true ∧ origin.blob ∈ frame.found ∧
          origin.blob = ⟨entry.blob.centerRow, entry.blob.centerColumn, entry.blob.width + entry.age,
            entry.blob.height + entry.age⟩) ∧
        ∀ since < entry.age, ∃ frame remnant, past[since]? = some frame ∧ remnant ∈ frame.after.tracked ∧
          remnant.id = entry.id ∧ remnant.matched = false)) ∧
    ∀ sizes, (sizes ≠ [] ∨ ∀ entry ∈ final.tracked, outlives final.params.maxAge 0 entry = true) →
      (final.run (blanks sizes)).tracked =
        (final.tracked.filter (outlives final.params.maxAge sizes.length)).map (fadedFor sizes.length) := by
  intro final past
  have recorded : Recorded final past := recorded_run fresh.recorded actions
  refine ⟨recorded.compact, recorded.sorted, fun entry member => ?_, fun sizes lasting =>
    tracked_blanks_of_lasting (fun entry member => (recorded.traced entry member).shrinkable shrinkable) lasting⟩
  have traced := recorded.traced entry member
  have origin := traced.origin shrinkable
  have young := recorded.young
  generalize past = frames at traced origin young
  cases traced with
  | @matched latest _ _ matched age found => exact ⟨latest, rfl, .inl ⟨matched, age, found⟩⟩
  | @faded latest _ prior =>
    have bound := young latest rfl (faded prior) member
    exact ⟨latest, rfl, .inr ⟨rfl, Nat.le_add_left .., bound, origin⟩⟩

/-- Two boxes are found; the first is missed twice and the second once, while its limit is lowered. -/
def missed : List Action :=
  [.update [⟨15, 15, 9, 10⟩] 64 64, .update [⟨40, 40, 9, 9⟩] 64 64, .setParams ⟨8, 25, 2, 2⟩,
    .update [⟨50, 10, 8, 8⟩] 64 64]

theorem fades_with_age_missed :
    Fresh standard ∧ Shrinkable (standard.journal [] missed) ∧
    (standard.run missed).tracked =
      [⟨⟨50, 10, 8, 8⟩, 3, 0, true, 0⟩, ⟨⟨40, 40, 8, 8⟩, 2, 1, false, 0⟩, ⟨⟨15, 15, 7, 8⟩, 1, 2, false, 0⟩] ∧
    (∃ frame origin, (standard.journal [] missed)[2]? = some frame ∧ origin ∈ frame.after.tracked ∧
      origin.id = 1 ∧ origin.matched = true ∧ origin.blob ∈ frame.found ∧ origin.blob = ⟨15, 15, 9, 10⟩) ∧
    ((standard.run missed).run (blanks [(64, 64)])).tracked =
      [⟨⟨50, 10, 7, 7⟩, 3, 1, false, 0⟩, ⟨⟨40, 40, 7, 7⟩, 2, 2, false, 0⟩] := by
  have tracked : (standard.run missed).tracked =
      [⟨⟨50, 10, 8, 8⟩, 3, 0, true, 0⟩, ⟨⟨40, 40, 8, 8⟩, 2, 1, false, 0⟩,
        ⟨⟨15, 15, 7, 8⟩, 1, 2, false, 0⟩] := by decide
  have found : ∀ boxes ∈ (standard.journal [] missed).map Frame.found, ∀ blob ∈ boxes, blob.Shrinkable := by decide
  have shrinkable : Shrinkable (standard.journal [] missed) := List.forall_mem_map.mp found
  obtain ⟨-, -, fading, idle⟩ := fades_with_age .standard missed shrinkable
  have oldest : (⟨⟨15, 15, 7, 8⟩, 1, 2, false, 0⟩ : TrackedBlob) ∈ (standard.run missed).tracked := by
    rw [tracked]
    decide
  obtain ⟨_, -, ⟨matched, -⟩ | ⟨-, -, -, origin, -⟩⟩ := fading _ oldest
  · exact absurd matched Bool.false_ne_true
  · refine ⟨.standard, shrinkable, tracked, origin, ?_⟩
    rw [idle [(64, 64)] (.inl (List.cons_ne_nil _ _)), tracked]
    decide

/-- A box whose width is the least word is missed once: what is tracked then is wider than the box that was found. -/
theorem least_box_grows :
    (standard.run [.update [least] 64 64, .update [] 64 64]).tracked = [⟨⟨0, 0, 2 ^ 31 - 1, 4⟩, 1, 1, false, 0⟩] ∧
    least.width < 2 ^ 31 - 1 := by
  decide

end TouchTracking.Tracker
