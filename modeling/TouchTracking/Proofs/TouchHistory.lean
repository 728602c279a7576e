import TouchTracking.Proofs.Identity
import TouchTracking.Proofs.StageRuns

/-! What is seen of a tracker stage over its life: the identities that it tracks and those of the touches
that it publishes. The counter of its tracker is the memory of them all: whatever has been seen is below
it, and whatever is new comes from it. -/
namespace TouchTracking

namespace Tracker

theorem Grown.refl (tracker : Tracker) : Grown tracker tracker :=
  ⟨Nat.le_refl _, fun _ => .inl⟩

theorem Grown.trans {first second third : Tracker} (begun : Grown first second)
    (continued : Grown second third) : Grown first third where
  nextId := Nat.le_trans begun.nextId continued.nextId
  known id member := by
    rcases continued.known id member with old | new
    · exact begun.known id old
    · exact .inr (Nat.le_trans begun.nextId new)

theorem run_grown {tracker : Tracker} (numbered : Numbered tracker) (actions : List Action) :
    Grown tracker (tracker.run actions) := by
  induction actions generalizing tracker with
  | nil => exact .refl _
  | cons action actions ih =>
    have step := performed tracker action
    exact (performed_grown numbered step).trans (ih (performed_numbered numbered step))

end Tracker

namespace BlobTracker

open Raster (Image)
open Tracker (Numbered Grown)

variable {ω : Type}

/-- What a feed holds after a step of a stage: what it held before, a picture, or touches of boxes that
are tracked from then on. -/
inductive Heard (before : Fabric ω) (tracker : Tracker) (after : Fabric ω) (feed : FeedId) : Prop
  | kept (same : after.content? feed = before.content? feed)
  | picture (image : Image) (shown : after.slot? feed = some (.image image))
  | touches (list : List Touch) (shown : after.slot? feed = some (.touches list))
      (known : ∀ touch ∈ list, touch.id ∈ tracker.ids)

theorem Heard.congr {before before' after after' : Fabric ω} {tracker : Tracker} {feed : FeedId}
    (heard : Heard before tracker after feed)
    (first : before'.content? feed = before.content? feed)
    (last : after'.content? feed = after.content? feed) : Heard before' tracker after' feed := by
  have slot : after'.slot? feed = after.slot? feed := congrArg (·.bind Prod.fst) last
  cases heard with
  | kept same => exact .kept (last.trans (same.trans first.symm))
  | picture image shown => exact .picture image (slot.trans shown)
  | touches list shown known => exact .touches list (slot.trans shown) known

theorem heard_publish {core : Core} {picture : Image} {touches : List Touch}
    {fabric next : Fabric ω} {result : Except Failure Unit}
    (published : publish core picture touches fabric = (result, next)) {tracker : Tracker}
    (known : ∀ touch ∈ touches, touch.id ∈ tracker.ids) (feed : FeedId) :
    Heard fabric tracker next feed := by
  unfold publish at published
  split at published
  next => cases published; exact .kept rfl
  next middle drawn =>
    obtain ⟨_, -, drawn⟩ := pushTo_ok drawn
    have first : Heard fabric tracker middle feed := by
      rcases Fabric.slot?_push drawn feed with same | shown
      · exact .kept same
      · exact .picture picture shown
    split at published
    next => cases published; exact first
    next told =>
      cases published
      obtain ⟨_, -, told⟩ := pushTo_ok told
      rcases Fabric.slot?_push told feed with same | shown
      · exact first.congr rfl same
      · exact .touches touches shown known

theorem heard_update (stage : Stage Body) (fabric : Fabric ω) (feed : FeedId) :
    Heard fabric (update stage fabric).2.1.body (update stage fabric).2.2 feed := by
  have step := updated stage fabric
  generalize update stage fabric = outcome at step
  cases step with
  | tracked mask _ _ synced _ touches tracker processed _ _ result next published =>
    refine heard_publish published (fun touch member => ?_) feed
    obtain ⟨_, -, -, rfl⟩ := Tracker.process_ok processed
    exact (Tracker.ids_touches_sublist ..).subset (List.mem_map_of_mem member)
  | _ => exact .kept rfl

theorem heard_poll (stage : Stage Body) (fabric : Fabric ω) (feed : FeedId) :
    Heard fabric (Behaviour.poll stage fabric).2.1.body (Behaviour.poll stage fabric).2.2 feed := by
  rw [poll_eq]
  split
  · rw [body_settle, fabric_settle]
    have silent := Fabric.content?_silence fabric stage.core.bell feed
    exact (heard_update stage (fabric.silence stage.core.bell) feed).congr silent.symm rfl
  · exact .kept rfl

namespace World

def ids (world : World ω) : List Nat := world.stage.body.ids

/-- The touches that the stage puts on its second output in a step. -/
def published (world : World ω) (deed : Deed) : List Touch :=
  match deed with
  | .push _ _ => []
  | deed =>
    match world.stage.core.output? 1 with
    | none => []
    | some feed => world.fabric.arrived (world.act deed).fabric feed

/-- The identities that are seen at a step: those that are tracked after it and those of the touches
that are published by it. -/
def seen (world : World ω) (deed : Deed) : List Nat :=
  (world.act deed).ids ++ (world.published deed).map (·.id)

def history (world : World ω) : List Deed → List Nat
  | [] => []
  | deed :: deeds => world.seen deed ++ history (world.act deed) deeds

/-- Nothing that the stage does puts other touches on a feed than those of boxes that it tracks. -/
theorem heard_act (world : World ω) (deed : Deed)
    (own : ∀ feed payload, deed ≠ .push feed payload) (feed : FeedId) :
    Heard world.fabric (world.act deed).stage.body (world.act deed).fabric feed := by
  cases deed with
  | push target payload => exact absurd rfl (own target payload)
  | poll => exact heard_poll ..
  | update => exact heard_update ..
  | start => exact .kept (by simp only [act, start_spec])
  | stop => exact .kept (by simp only [act, fabric_stop])
  | connect source port =>
    simp only [act]
    split
    next connected => exact .kept (Core.content?_setInput connected feed)
    next => exact .kept rfl
  | detachInputs => exact .kept (Core.content?_detachInputs ..)
  | detachFeed => exact .kept (Core.content?_detachFeed ..)
  | write => exact .kept (Core.content?_setProperty ..)

theorem mem_ids_of_heard {before after : Fabric ω} {tracker : Tracker} {feed : FeedId}
    (heard : Heard before tracker after feed) (touch : Touch)
    (arrived : touch ∈ before.arrived after feed) : touch.id ∈ tracker.ids := by
  unfold Fabric.arrived at arrived
  cases heard with
  | kept same => simp [same] at arrived
  | picture image shown => simp [shown, Payload.touches?] at arrived
  | touches list shown known =>
    split at arrived
    next => cases arrived
    next =>
      rw [shown] at arrived
      exact known touch arrived

theorem mem_ids_of_published (world : World ω) (deed : Deed) (touch : Touch)
    (published : touch ∈ world.published deed) : touch.id ∈ (world.act deed).ids := by
  unfold World.published at published
  split at published
  next => cases published
  next own =>
    split at published
    next => cases published
    next feed _ => exact mem_ids_of_heard (heard_act world deed own feed) touch published

theorem mem_seen (world : World ω) (deed : Deed) (id : Nat) :
    id ∈ world.seen deed ↔ id ∈ (world.act deed).ids := by
  rw [seen, List.mem_append, or_iff_left_of_imp]
  intro member
  obtain ⟨touch, published, rfl⟩ := List.mem_map.mp member
  exact mem_ids_of_published world deed touch published

theorem numbered_run {world : World ω} (numbered : Numbered world.stage.body)
    (deeds : List Deed) : Numbered (world.run deeds).stage.body := by
  obtain ⟨actions, same⟩ := follows_run world deeds
  rw [same]
  exact Tracker.run_numbered numbered actions

theorem grown_run {world : World ω} (numbered : Numbered world.stage.body)
    (deeds : List Deed) : Grown world.stage.body (world.run deeds).stage.body := by
  obtain ⟨actions, same⟩ := follows_run world deeds
  rw [same]
  exact Tracker.run_grown numbered actions

/-- An identity that is seen is tracked from before or comes from the counter. -/
theorem known_of_mem_history {world : World ω} (numbered : Numbered world.stage.body)
    {deeds : List Deed} {id : Nat} (member : id ∈ world.history deeds) :
    id ∈ world.ids ∨ world.stage.body.nextId ≤ id := by
  induction deeds generalizing world with
  | nil => cases member
  | cons deed deeds ih =>
    have grown : Grown world.stage.body (world.act deed).stage.body := grown_run numbered [deed]
    rcases List.mem_append.mp member with now | later
    · exact grown.known id ((mem_seen ..).mp now)
    · rcases ih (numbered_run numbered [deed]) later with old | new
      · exact grown.known id old
      · exact .inr (Nat.le_trans grown.nextId new)

/-- The counter is above every identity that has been seen. -/
theorem below_of_mem_history {world : World ω} (numbered : Numbered world.stage.body)
    {deeds : List Deed} {id : Nat} (member : id ∈ world.history deeds) :
    id < (world.run deeds).stage.body.nextId := by
  induction deeds generalizing world with
  | nil => cases member
  | cons deed deeds ih =>
    have next : Numbered (world.act deed).stage.body := numbered_run numbered [deed]
    rcases List.mem_append.mp member with now | later
    · exact Nat.lt_of_lt_of_le (next.below id ((mem_seen ..).mp now)) (grown_run next deeds).nextId
    · exact ih next later

theorem mem_history_of_mem_ids {world : World ω} {deeds : List Deed} {id : Nat}
    (tracked : id ∈ (world.run deeds).ids) : id ∈ world.ids ∨ id ∈ world.history deeds := by
  induction deeds generalizing world with
  | nil => exact .inl tracked
  | cons deed deeds ih =>
    rcases ih tracked with now | later
    · exact .inr (List.mem_append_left _ ((mem_seen ..).mpr now))
    · exact .inr (List.mem_append_right _ later)

theorem numbered_make (fabric : Fabric ω) : Numbered (make fabric).stage.body :=
  Tracker.Fresh.standard.numbered

/-- Over the life of a stage, an identity that has been seen and is tracked no more is not seen again,
and one that is seen for the first time is above all that have been seen before. -/
theorem identities_never_return (fabric : Fabric ω) (past : List Deed) :
    (∀ id ∈ (make fabric).history past, id ∉ ((make fabric).run past).ids →
      ∀ future, id ∉ ((make fabric).run past).history future) ∧
    ∀ deed, ∀ id ∈ ((make fabric).run past).seen deed, id ∉ (make fabric).history past →
      ∀ old ∈ (make fabric).history past, old < id := by
  have initial := numbered_make fabric
  have numbered := numbered_run initial past
  refine ⟨fun id known lost future again => ?_, fun deed id appears unknown old known => ?_⟩
  · rcases known_of_mem_history numbered again with tracked | new
    · exact lost tracked
    · exact Nat.not_lt_of_le new (below_of_mem_history initial known)
  · have grown : Grown _ (((make fabric).run past).act deed).stage.body := grown_run numbered [deed]
    rcases grown.known id ((mem_seen ..).mp appears) with tracked | new
    · rcases mem_history_of_mem_ids tracked with start | before
      · cases start
      · exact absurd before unknown
    · exact Nat.lt_of_lt_of_le (below_of_mem_history initial known) new

def maskFeed : Fabric Unit := ((Fabric.empty ()).addFeed "mask" .image).2

/-- A box is tracked and published, and then a picture in colour stops the stage. -/
def stoppedByColor : List Deed :=
  [.connect (some ⟨0⟩) 0, .write "min_age" (.int 0), .start,
    .push ⟨0⟩ (.image ⟨8, 8, 1, Array.replicate 64 255, by decide⟩), .poll,
    .push ⟨0⟩ (.image ⟨1, 1, 3, Array.replicate 3 0, by decide⟩), .poll]

theorem identities_never_return_stoppedByColor :
    (((make maskFeed).run (stoppedByColor.take 4)).published .poll).map (·.id) = [1] ∧
    1 ∈ (make maskFeed).history stoppedByColor ∧
    1 ∉ ((make maskFeed).run stoppedByColor).ids ∧
    (∀ future, 1 ∉ ((make maskFeed).run stoppedByColor).history future) ∧
    ∀ deed, ∀ id ∈ ((make maskFeed).run stoppedByColor).seen deed,
      id ∉ (make maskFeed).history stoppedByColor →
      ∀ old ∈ (make maskFeed).history stoppedByColor, old < id := by
  have seen : 1 ∈ (make maskFeed).history stoppedByColor := by decide +kernel
  have lost : 1 ∉ ((make maskFeed).run stoppedByColor).ids := by decide +kernel
  obtain ⟨gone, larger⟩ := identities_never_return maskFeed stoppedByColor
  exact ⟨by decide +kernel, seen, lost, gone 1 seen lost, larger⟩

end World

end BlobTracker
end TouchTracking
