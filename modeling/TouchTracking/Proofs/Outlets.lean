import TouchTracking.Proofs.Parameters
import TouchTracking.Proofs.TouchHistory
import TouchTracking.Proofs.Wakeups

/-! What a tracker stage puts out. An update that finds nothing wrong with the mask publishes a picture and then a
list of touches; in every other case it publishes nothing. So the two outputs count alike for as long as nobody else
pushes there, and a mask that is refused leaves what is tracked as it was. -/
namespace TouchTracking

open Raster (Image Picture)

variable {ω : Type}

structure Raster.Image.Canvas (width height : Nat) (image : Image) : Prop where
  width : image.width = width
  height : image.height = height
  channels : image.channels = 3

theorem Raster.Image.Canvas.put {width height : Nat} {image : Image} (canvas : image.Canvas width height)
    (row column : Int) (color : List UInt8) : (image.put row column color).Canvas width height := by
  unfold Image.put
  split
  · exact ⟨canvas.width, canvas.height, canvas.channels⟩
  · exact canvas

theorem Raster.Image.Canvas.drawOutline {width height : Nat} {image : Image} (canvas : image.Canvas width height)
    (blob : Blob) (color : List UInt8) : (Tracker.drawOutline image blob color).Canvas width height :=
  List.foldlRecOn blob.outline _ canvas fun _ canvas cell _ => canvas.put cell.1 cell.2 color

theorem canvas_canvasFor (mask : Image) (kept : Option Picture) :
    (canvasFor mask kept).image.Canvas mask.width mask.height := by
  unfold canvasFor
  split
  next canvas =>
    split
    next same =>
      obtain ⟨width, height⟩ : canvas.image.width = mask.width ∧ canvas.image.height = mask.height := by
        simpa [Raster.Image.sameSize] using same
      exact ⟨width, height, canvas.channels_eq⟩
    next => exact ⟨rfl, rfl, rfl⟩
  next => exact ⟨rfl, rfl, rfl⟩

theorem Tracker.canvas_drawn (tracker : Tracker) (mask : Image) (kept : Option Picture) :
    (tracker.drawn (canvasFor mask kept)).image.Canvas mask.width mask.height := by
  obtain ⟨width, height, channels⟩ := canvas_canvasFor mask kept
  have wiped : ((canvasFor mask kept).image.fill 0).Canvas mask.width mask.height := ⟨width, height, channels⟩
  refine List.foldlRecOn _ _ wiped fun image canvas entry _ => ?_
  split
  · exact canvas.drawOutline ..
  · exact canvas

namespace BlobTracker

variable {stage synced : Stage Body} {core : Core} {fabric next : Fabric ω} {drawn told : FeedId}

/-- What is wrong with a mask: it is in colour, it comes while the limits of size do not fit together, or it has no
pixels. -/
def fault? (core : Core) (mask : Image) : Option Failure :=
  if mask.channels ≠ 1 then some (wrongChannels mask.channels)
  else match (paramsOf core).detector with
    | .error error => some (sizeFailure error)
    | .ok _ =>
      if mask.width = 0 ∨ mask.height = 0 then some ⟨.runtime, FrameError.emptyDimension.message⟩ else none

/-- The two outputs of the stage lead to a feed of pictures and a feed of touches. -/
structure Outfitted (core : Core) (fabric : Fabric ω) (drawn told : FeedId) : Prop where
  outputs : core.outputFeeds = [drawn, told]
  pictures : fabric.format? drawn = some .image
  touches : fabric.format? told = some .touch

namespace Outfitted

theorem apart (outfitted : Outfitted core fabric drawn told) : drawn ≠ told := by
  rintro rfl
  have both := outfitted.pictures.symm.trans outfitted.touches
  cases both

theorem output? (outfitted : Outfitted core fabric drawn told) :
    core.output? 0 = some drawn ∧ core.output? 1 = some told := by
  have listed (port : Nat) : core.output? port = [drawn, told][port]? := by
    rw [← outfitted.outputs, Core.outputFeeds, List.getElem?_map, Core.output?]
  exact ⟨listed 0, listed 1⟩

theorem congr (outfitted : Outfitted core fabric drawn told) {core' : Core} (outputs : core'.outputs = core.outputs)
    (formats : ∀ id ∈ [drawn, told], next.format? id = fabric.format? id) : Outfitted core' next drawn told where
  outputs := by
    rw [Core.outputFeeds, outputs]
    exact outfitted.outputs
  pictures := (formats drawn List.mem_cons_self).trans outfitted.pictures
  touches := (formats told (List.mem_cons_of_mem _ List.mem_cons_self)).trans outfitted.touches

end Outfitted

/-- A picture of the size of the mask is published, and then a list of touches. -/
def Publishes (drawn told : FeedId) (mask : Image) (fabric next : Fabric ω) : Prop :=
  ∃ picture touches middle, picture.Canvas mask.width mask.height ∧
    fabric.push drawn (.image picture) = .ok middle ∧ middle.push told (.touches touches) = .ok next

namespace Publishes

variable {mask : Image}

theorem format? (publishes : Publishes drawn told mask fabric next) (id : FeedId) :
    next.format? id = fabric.format? id := by
  obtain ⟨_, _, middle, -, first, second⟩ := publishes
  rw [Fabric.format?_push second, Fabric.format?_push first]

theorem sequence (publishes : Publishes drawn told mask fabric next)
    (outfitted : Outfitted core fabric drawn told) :
    next.sequence drawn = fabric.sequence drawn + 1 ∧ next.sequence told = fabric.sequence told + 1 := by
  obtain ⟨_, _, middle, -, first, second⟩ := publishes
  have apart := outfitted.apart
  have drawnThere := Fabric.hasFeed_of_format outfitted.pictures
  have toldThere : middle.hasFeed told = true :=
    Fabric.hasFeed_of_format ((Fabric.format?_push first told).trans outfitted.touches)
  constructor
  · rw [Fabric.sequence_push second, if_neg fun both => apart both.1, Fabric.sequence_push first,
      if_pos ⟨rfl, drawnThere⟩]
  · rw [Fabric.sequence_push second, if_pos ⟨rfl, toldThere⟩, Fabric.sequence_push first,
      if_neg fun both => apart both.1.symm]

end Publishes

theorem publish_of_outfitted (outfitted : Outfitted core fabric drawn told) (picture : Image) (touches : List Touch) :
    ∃ middle next, publish core picture touches fabric = (.ok (), next) ∧
      fabric.push drawn (.image picture) = .ok middle ∧ middle.push told (.touches touches) = .ok next := by
  obtain ⟨first, second⟩ := outfitted.output?
  obtain ⟨middle, drawn_, accepted⟩ := pushTo_of_format (.image picture) first outfitted.pictures
  obtain ⟨next, told_, accepted'⟩ := pushTo_of_format (.touches touches) second
    ((Fabric.format?_push accepted told).trans outfitted.touches)
  exact ⟨middle, next, by simp only [publish, drawn_, told_], accepted, accepted'⟩

/-- A refusal to take the parameters over is one of the parameters themselves. -/
theorem syncParams_error {error : SizeError} (refused : syncParams stage = .error error) :
    (paramsOf stage.core).detector = .error error := by
  unfold syncParams at refused
  simp only at refused
  split at refused
  next => cases refused
  next =>
    unfold Tracker.setParams at refused
    cases made : (paramsOf stage.core).detector with
    | error =>
      rw [made] at refused
      cases refused
      rfl
    | ok =>
      rw [made] at refused
      cases refused

structure Spared (before after : Tracker) : Prop where
  arena : after.arena = before.arena
  nextId : after.nextId = before.nextId

theorem syncParams_adopts (configured : stage.body.Configured) (sync : syncParams stage = .ok synced) :
    synced.core = stage.core ∧ Spared stage.body synced.body ∧ synced.body.params = paramsOf stage.core ∧
      (paramsOf stage.core).detector = .ok synced.body.detector := by
  unfold syncParams at sync
  simp only at sync
  split at sync
  next same =>
    cases sync
    exact ⟨rfl, ⟨rfl, rfl⟩, same.symm, same ▸ configured⟩
  next =>
    cases taken : stage.body.setParams (paramsOf stage.core) with
    | error =>
      rw [taken] at sync
      cases sync
    | ok body =>
      rw [taken] at sync
      cases sync
      obtain ⟨detector, made, rfl⟩ := Tracker.setParams_ok taken
      exact ⟨rfl, ⟨rfl, rfl⟩, rfl, made⟩

theorem process_error {tracker : Tracker} {mask : Image} (gray : mask.channels = 1) {error : FrameError}
    (refused : tracker.process mask = .error error) :
    (mask.width = 0 ∨ mask.height = 0) ∧ error = .emptyDimension := by
  unfold Tracker.process at refused
  split at refused
  next empty =>
    cases refused
    exact ⟨empty, rfl⟩
  next =>
    rw [Raster.Mask.ofImage, dif_pos gray] at refused
    cases refused

theorem fault?_of_misfit {mask : Image} (gray : mask.channels = 1) {error : SizeError}
    (misfit : (paramsOf core).detector = .error error) : fault? core mask = some (sizeFailure error) := by
  rw [fault?, if_neg (not_not.mpr gray), misfit]

theorem fault?_of_fit {mask : Image} (gray : mask.channels = 1) {detector : Detector}
    (fit : (paramsOf core).detector = .ok detector) :
    fault? core mask =
      if mask.width = 0 ∨ mask.height = 0 then some ⟨.runtime, FrameError.emptyDimension.message⟩ else none := by
  rw [fault?, if_neg (not_not.mpr gray), fit]

/-- How a stage with outputs answers: it has no mask to see, or it refuses the mask, or it publishes. -/
inductive Answered (stage : Stage Body) (fabric : Fabric ω) (drawn told : FeedId) :
    Except Failure Unit × Stage Body × Fabric ω → Prop
  | blind (none : mask? stage fabric = none) : Answered stage fabric drawn told (.ok (), stage, fabric)
  | refused (mask : Image) (shown : mask? stage fabric = some mask) (failure : Failure)
      (faulty : fault? stage.core mask = some failure) (next : Stage Body)
      (spared : mask.channels = 1 → next.core = stage.core ∧ Spared stage.body next.body) :
      Answered stage fabric drawn told (.error failure, next, fabric)
  | published (mask : Image) (shown : mask? stage fabric = some mask) (fine : fault? stage.core mask = none)
      (next : Stage Body) (after : Fabric ω) (publishes : Publishes drawn told mask fabric after) :
      Answered stage fabric drawn told (.ok (), next, after)

theorem answered (outfitted : Outfitted stage.core fabric drawn told) (configured : stage.body.Configured) :
    Answered stage fabric drawn told (update stage fabric) := by
  have step := updated stage fabric
  generalize update stage fabric = outcome at step
  cases step with
  | idle none => exact .blind none
  | colored mask shown colored =>
    exact .refused mask shown _ (by rw [fault?, if_pos colored]) _ fun gray => absurd gray colored
  | misfit mask shown gray error refused =>
    exact .refused mask shown _ (fault?_of_misfit gray (syncParams_error refused)) _ fun _ => ⟨rfl, rfl, rfl⟩
  | unseen mask shown gray synced sync error refused =>
    obtain ⟨same, spared, -, fit⟩ := syncParams_adopts configured sync
    obtain ⟨empty, rfl⟩ := process_error gray refused
    exact .refused mask shown _ (by rw [fault?_of_fit gray fit, if_pos empty]) _ fun _ => ⟨same, spared⟩
  | tracked mask shown gray synced sync touches tracker processed picture drawn result next published =>
    obtain ⟨same, -, -, fit⟩ := syncParams_adopts configured sync
    obtain ⟨middle, after, done, first, second⟩ := publish_of_outfitted (same ▸ outfitted) picture.image touches
    rw [published] at done
    cases done
    have filled : ¬ (mask.width = 0 ∨ mask.height = 0) := by
      intro empty
      rw [Tracker.process, if_pos empty] at processed
      cases processed
    exact .published mask shown (by rw [fault?_of_fit gray fit, if_neg filled]) _ _
      ⟨_, touches, middle, drawn ▸ tracker.canvas_drawn .., first, second⟩

/-- An answer publishes a picture and touches, or nothing. -/
theorem Answered.issued {outcome : Except Failure Unit × Stage Body × Fabric ω}
    (answered : Answered stage fabric drawn told outcome) :
    outcome.2.2.feeds = fabric.feeds ∨
      ∃ mask, mask? stage fabric = some mask ∧ Publishes drawn told mask fabric outcome.2.2 := by
  cases answered with
  | blind | refused => exact .inl rfl
  | published mask shown fine next after publishes => exact .inr ⟨mask, shown, publishes⟩

/-- The parameters stay in force, or those in the properties take their place, which fit together. -/
def Adopts (core : Core) (before after : Tracker) : Prop :=
  (after.params = before.params ∧ after.detector = before.detector) ∨
    after.params = paramsOf core ∧ (paramsOf core).detector = .ok after.detector

theorem adopts_halt (stage : Stage Body) : Adopts core stage.body (halt stage).body := by
  unfold halt
  split <;> exact .inl ⟨rfl, rfl⟩

theorem adopts_update (configured : stage.body.Configured) (fabric : Fabric ω) :
    Adopts stage.core stage.body (update stage fabric).2.1.body := by
  have step := updated stage fabric
  generalize update stage fabric = outcome at step
  cases step with
  | idle | misfit => exact .inl ⟨rfl, rfl⟩
  | colored => exact adopts_halt stage
  | unseen mask _ _ synced sync => exact .inr (syncParams_adopts configured sync).2.2
  | tracked mask _ _ synced sync touches tracker processed =>
    obtain ⟨_, -, rfl, -⟩ := Tracker.process_ok processed
    exact .inr (syncParams_adopts configured sync).2.2

theorem adopts_poll (configured : stage.body.Configured) (fabric : Fabric ω) :
    Adopts stage.core stage.body (Behaviour.poll stage fabric).2.1.body := by
  rw [poll_eq]
  split
  · rw [body_settle]
    exact adopts_update configured _
  · exact .inl ⟨rfl, rfl⟩

theorem adopts_start (configured : stage.body.Configured) (fabric : Fabric ω) :
    Adopts stage.core stage.body (stage.start fabric).2.1.body := by
  rcases (start_spec stage fabric).1 with idle | begun
  · exact .inl (by rw [idle]; exact ⟨rfl, rfl⟩)
  · rw [begun]
    unfold onStart
    split
    next => exact .inl ⟨rfl, rfl⟩
    next =>
      split
      next => exact .inl ⟨rfl, rfl⟩
      next synced sync => exact .inr (syncParams_adopts configured sync).2.2

theorem adopts_stop (stage : Stage Body) (fabric : Fabric ω) :
    Adopts core stage.body (stage.stop fabric).1.body := by
  unfold Stage.stop Stage.stopBy
  split <;> exact .inl ⟨rfl, rfl⟩

def Deed.isStep : Deed → Bool
  | .poll | .update => true
  | .push .. | .start | .stop | .connect .. | .detachInputs | .detachFeed _ | .write .. => false

namespace World

variable {world : World ω}

theorem adopts_act (configured : world.stage.body.Configured) (deed : Deed) :
    Adopts world.stage.core world.stage.body (world.act deed).stage.body := by
  have kept : Adopts world.stage.core world.stage.body world.stage.body := .inl ⟨rfl, rfl⟩
  cases deed with
  | push feed payload =>
    simp only [act]
    split <;> exact kept
  | poll => exact adopts_poll configured world.fabric
  | update => exact adopts_update configured world.fabric
  | start => exact adopts_start configured world.fabric
  | stop => exact adopts_stop world.stage world.fabric
  | connect feed port =>
    simp only [act]
    split <;> exact kept
  | detachInputs | detachFeed | write => exact kept

theorem configured_run (configured : world.stage.body.Configured) (deeds : List Deed) :
    (world.run deeds).stage.body.Configured := by
  obtain ⟨actions, same⟩ := follows_run world deeds
  rw [same]
  exact Tracker.run_configured configured actions

/-- As long as the properties do not fit together, the parameters stay in force. -/
theorem run_misfit (configured : world.stage.body.Configured) {deeds : List Deed}
    (misfit : ∀ count < deeds.length, (paramsOf (world.run (deeds.take count)).stage.core).validate ≠ .ok ()) :
    (world.run deeds).stage.body.params = world.stage.body.params ∧
      (world.run deeds).stage.body.detector = world.stage.body.detector := by
  induction deeds generalizing world with
  | nil => exact ⟨rfl, rfl⟩
  | cons deed deeds ih =>
    have later := ih (configured_run configured [deed]) fun count inside =>
      misfit (count + 1) (Nat.succ_lt_succ inside)
    rcases adopts_act configured deed with kept | ⟨-, fit⟩
    · exact ⟨later.1.trans kept.1, later.2.trans kept.2⟩
    · refine absurd ?_ (misfit 0 (Nat.zero_lt_succ _))
      rw [TrackerParams.validate]
      exact congrArg (Except.map fun _ => ()) fit

/-- A world in which the stage has its outputs as before, and in which they hold what they held. -/
structure Leaves (world next : World ω) : Prop where
  outputs : next.stage.core.outputs = world.stage.core.outputs
  stats : next.stage.core.stats = world.stage.core.stats
  formats : ∀ id ∈ world.stage.core.outputFeeds, next.fabric.format? id = world.fabric.format? id
  contents : ∀ id ∈ world.stage.core.outputFeeds, next.fabric.content? id = world.fabric.content? id

theorem Leaves.refl (world : World ω) : Leaves world world := ⟨rfl, rfl, fun _ _ => rfl, fun _ _ => rfl⟩

theorem leaves_push {feed : FeedId} (foreign : feed ∉ world.stage.core.outputFeeds) (payload : Payload) :
    Leaves world (world.act (.push feed payload)) := by
  simp only [act]
  split
  next fabric accepted =>
    refine ⟨rfl, rfl, fun id _ => Fabric.format?_push accepted id, fun id own => ?_⟩
    rw [Fabric.content?_push accepted, if_neg]
    rintro rfl
    exact foreign own
  next => exact .refl world

/-- Whatever is done to the stage, but for the steps it takes itself, leaves the outputs alone. -/
theorem leaves_act {deed : Deed} (stepless : deed.isStep = false)
    (foreign : ∀ feed payload, deed = .push feed payload → feed ∉ world.stage.core.outputFeeds) :
    Leaves world (world.act deed) := by
  cases deed with
  | push feed payload => exact leaves_push (foreign feed payload rfl) payload
  | poll | update => cases stepless
  | start =>
    have unchanged : (world.act .start).fabric = world.fabric := (start_spec ..).2
    obtain ⟨_, _, same⟩ := core_start world.stage world.fabric
    exact ⟨(congrArg Core.outputs same :), (congrArg Core.stats same :), fun _ _ => by rw [unchanged],
      fun _ _ => by rw [unchanged]⟩
  | stop =>
    have unchanged : (world.act .stop).fabric = world.fabric := fabric_stop ..
    obtain ⟨_, same⟩ := core_stop world.stage world.fabric
    exact ⟨(congrArg Core.outputs same :), (congrArg Core.stats same :), fun _ _ => by rw [unchanged],
      fun _ _ => by rw [unchanged]⟩
  | connect feed port =>
    simp only [act]
    split
    next connected =>
      obtain ⟨-, -, same, -⟩ := Core.setInput_ok connected
      exact ⟨(congrArg Core.outputs same :), (congrArg Core.stats same :),
        fun id _ => Core.format?_setInput connected id,
        fun id _ => Core.content?_setInput connected id⟩
    next => exact .refl world
  | detachInputs =>
    exact ⟨rfl, rfl, fun id _ => Core.format?_detachInputs .., fun id _ => Core.content?_detachInputs ..⟩
  | detachFeed feed =>
    refine ⟨?_, ?_, fun id _ => Core.format?_detachFeed .., fun id _ => Core.content?_detachFeed ..⟩
    all_goals
      simp only [act, Core.detachFeed]
      split <;> rfl
  | write name value =>
    obtain ⟨⟨_, _, same⟩, feeds⟩ := world.stage.core.setProperty_same name value world.fabric
    refine ⟨(congrArg Core.outputs same :), (congrArg Core.stats same :), fun id _ => ?_,
      fun id _ => Core.content?_setProperty ..⟩
    simp only [act, Fabric.format?, Fabric.feed?, feeds]

variable {drawn told : FeedId}

theorem Leaves.outfitted {next : World ω} (leaves : Leaves world next)
    (outfitted : Outfitted world.stage.core world.fabric drawn told) :
    Outfitted next.stage.core next.fabric drawn told :=
  outfitted.congr leaves.outputs (outfitted.outputs ▸ leaves.formats)

/-- The outputs lead to the same feeds for good, and these keep their formats. -/
theorem outfitted_answered {stage : Stage Body} {fabric : Fabric ω}
    {outcome : Except Failure Unit × Stage Body × Fabric ω}
    (outfitted : Outfitted stage.core fabric drawn told) (answered : Answered stage fabric drawn told outcome)
    (outputs : outcome.2.1.core.outputs = stage.core.outputs) :
    Outfitted outcome.2.1.core outcome.2.2 drawn told := by
  cases answered with
  | blind => exact outfitted
  | refused => exact outfitted.congr outputs fun _ _ => rfl
  | published mask shown fine next after publishes => exact outfitted.congr outputs fun id _ => publishes.format? id

/-- The outputs lead to feeds that have accepted equally many payloads. -/
structure InStep (world : World ω) (drawn told : FeedId) : Prop where
  outfitted : Outfitted world.stage.core world.fabric drawn told
  equal : world.fabric.sequence drawn = world.fabric.sequence told

theorem InStep.leaves {next : World ω} (inStep : InStep world drawn told) (leaves : Leaves world next) :
    InStep next drawn told := by
  have kept {id : FeedId} (own : id ∈ [drawn, told]) : next.fabric.sequence id = world.fabric.sequence id := by
    rw [Fabric.sequence, leaves.contents id (inStep.outfitted.outputs ▸ own), Fabric.sequence]
  refine ⟨leaves.outfitted inStep.outfitted, ?_⟩
  rw [kept List.mem_cons_self, kept (List.mem_cons_of_mem _ List.mem_cons_self)]
  exact inStep.equal

/-- An answer raises both counts or none. -/
theorem inStep_answered {stage : Stage Body} {fabric : Fabric ω}
    {outcome : Except Failure Unit × Stage Body × Fabric ω} (inStep : InStep ⟨stage, fabric⟩ drawn told)
    (answered : Answered stage fabric drawn told outcome) (outputs : outcome.2.1.core.outputs = stage.core.outputs) :
    InStep ⟨outcome.2.1, outcome.2.2⟩ drawn told := by
  refine ⟨outfitted_answered inStep.outfitted answered outputs, ?_⟩
  cases answered with
  | blind | refused => exact inStep.equal
  | published mask shown fine next after publishes =>
    obtain ⟨first, second⟩ := publishes.sequence inStep.outfitted
    rw [first, second, inStep.equal]

theorem InStep.hushed (inStep : InStep world drawn told) :
    InStep ⟨world.stage, world.fabric.silence world.stage.core.bell⟩ drawn told :=
  inStep.leaves ⟨rfl, rfl, fun _ _ => rfl, fun _ _ => rfl⟩

theorem leaves_settle (result : Except Failure Bool) (world : World ω) :
    let settled := (Stage.settle (result, world.stage, world.fabric)).2
    Leaves world ⟨settled.1, settled.2⟩ := by
  cases result <;> exact ⟨rfl, rfl, fun _ _ => rfl, fun _ _ => rfl⟩

theorem inStep_act (inStep : InStep world drawn told) (configured : world.stage.body.Configured) {deed : Deed}
    (foreign : ∀ feed payload, deed = .push feed payload → feed ∉ [drawn, told]) :
    InStep (world.act deed) drawn told := by
  cases steps : deed.isStep with
  | false => exact inStep.leaves (leaves_act steps (inStep.outfitted.outputs.symm ▸ foreign))
  | true =>
    cases deed with
    | poll =>
      by_cases answers : world.Answers .poll
      · have hushed := inStep.hushed
        have updated := inStep_answered hushed (answered hushed.outfitted configured) (update_spec ..).2.1.outputs
        simp only [act, poll_of_answers answers]
        exact updated.leaves (leaves_settle _ ⟨_, _⟩)
      · rw [act_poll_eq_self answers]
        exact inStep
    | update => exact inStep_answered inStep (answered inStep.outfitted configured) (update_spec ..).2.1.outputs
    | _ => cases steps

theorem inStep_run (inStep : InStep world drawn told) (configured : world.stage.body.Configured) {deeds : List Deed}
    (foreign : ∀ feed payload, .push feed payload ∈ deeds → feed ∉ [drawn, told]) :
    InStep (world.run deeds) drawn told := by
  induction deeds generalizing world with
  | nil => exact inStep
  | cons deed deeds ih =>
    have first : InStep (world.act deed) drawn told :=
      inStep_act inStep configured fun feed payload same => foreign feed payload (same ▸ List.mem_cons_self)
    exact ih first (configured_run configured [deed]) fun feed payload later =>
      foreign feed payload (List.mem_cons_of_mem _ later)

theorem feeds_make (fabric : Fabric ω) :
    (make fabric).fabric.feed? ⟨fabric.feeds.size⟩ = some (Feed.empty "annotated" .image) ∧
      (make fabric).fabric.feed? ⟨fabric.feeds.size + 1⟩ = some (Feed.empty "touches" .touch) := by
  have feeds : (make fabric).fabric.feeds =
      (fabric.feeds.push (Feed.empty "annotated" .image)).push (Feed.empty "touches" .touch) := rfl
  simp only [Fabric.feed?, feeds]
  constructor
  · rw [Array.getElem?_push, Array.size_push, if_neg (by omega), Array.getElem?_push_size]
  · rw [Array.getElem?_push, Array.size_push, if_pos rfl]

theorem inStep_make (fabric : Fabric ω) :
    InStep (make fabric) ⟨fabric.feeds.size⟩ ⟨fabric.feeds.size + 1⟩ := by
  have outputs : (make fabric).stage.core.outputFeeds =
      [⟨fabric.feeds.size⟩, ⟨(fabric.feeds.push (Feed.empty "annotated" .image)).size⟩] := rfl
  rw [Array.size_push] at outputs
  obtain ⟨drawn, told⟩ := feeds_make fabric
  refine ⟨⟨outputs, ?_, ?_⟩, ?_⟩
  · rw [Fabric.format?, drawn]
    rfl
  · rw [Fabric.format?, told]
    rfl
  · rw [Fabric.sequence, Fabric.content?, drawn, Fabric.sequence, Fabric.content?, told]
    rfl

/-- Whatever happens to a stage on whose outputs nobody else pushes. -/
theorem inStep_of_own {fabric : Fabric ω} {past : List Deed}
    (own : ∀ feed payload, .push feed payload ∈ past → feed ∉ (make fabric).stage.core.outputFeeds) :
    InStep ((make fabric).run past) ⟨fabric.feeds.size⟩ ⟨fabric.feeds.size + 1⟩ := by
  have begun := inStep_make fabric
  exact inStep_run begun Tracker.Fresh.standard.configured (begun.outfitted.outputs ▸ own)

/-- A refused mask changes nothing but the latest failure, and perhaps the parameters. -/
theorem poll_refused (inStep : InStep world drawn told) (configured : world.stage.body.Configured)
    (answers : world.Answers .poll) {mask : Image} (shown : mask? world.stage world.fabric = some mask)
    (gray : mask.channels = 1) {failure : Failure} (faulty : fault? world.stage.core mask = some failure) :
    let polled := Behaviour.poll world.stage world.fabric
    polled.1 = false ∧ polled.2.2.feeds = world.fabric.feeds ∧ Spared world.stage.body polled.2.1.body ∧
      polled.2.1.isStarted = true ∧ polled.2.1.core.lastFailure = some failure := by
  have answered := answered inStep.hushed.outfitted configured
  simp only [poll_of_answers answers]
  generalize update world.stage (world.fabric.silence world.stage.core.bell) = outcome at answered
  cases answered with
  | blind none => cases shown.symm.trans none
  | refused mask' shown' failure' faulty' next spared =>
    cases shown.symm.trans shown'
    cases faulty.symm.trans faulty'
    obtain ⟨same, kept⟩ := spared gray
    refine ⟨rfl, rfl, kept, ?_, rfl⟩
    show next.core.isStarted = true
    rw [same]
    exact answers.1
  | published mask' shown' fine =>
    cases shown.symm.trans shown'
    cases faulty.symm.trans fine

/-- Over the life of a stage on whose outputs nobody else pushes, both outputs have accepted equally many payloads.
An update publishes one picture of the size of the mask, in three channels, and then one list of touches, or it
publishes nothing; and a poll does no more than that. A poll that refuses a mask of one channel, because the
properties do not fit together or the mask has no pixels, changes no feed and nothing of what is tracked; the stage
stays started and keeps the failure. The detector has the limits of the parameters at all times, and while the
properties do not fit together both stay as they are. -/
theorem outputs_stay_in_step (fabric : Fabric ω) (past : List Deed)
    (own : ∀ feed payload, .push feed payload ∈ past → feed ∉ (make fabric).stage.core.outputFeeds) :
    let world := (make fabric).run past
    let silenced := world.fabric.silence world.stage.core.bell
    let shown := mask? world.stage world.fabric
    let updated := update world.stage world.fabric
    let polled := Behaviour.poll world.stage world.fabric
    let tracker := world.stage.body
    ∃ drawn told, drawn ≠ told ∧ world.stage.core.outputFeeds = [drawn, told] ∧
      world.fabric.sequence drawn = world.fabric.sequence told ∧
      (updated.2.2.feeds = world.fabric.feeds ∨
        ∃ mask, shown = some mask ∧ Publishes drawn told mask world.fabric updated.2.2) ∧
      (polled.2.2.feeds = world.fabric.feeds ∨
        ∃ mask, shown = some mask ∧ Publishes drawn told mask silenced polled.2.2) ∧
      (∀ mask failure, world.Answers .poll → shown = some mask → mask.channels = 1 →
        fault? world.stage.core mask = some failure →
        polled.1 = false ∧ polled.2.2.feeds = world.fabric.feeds ∧ Spared tracker polled.2.1.body ∧
          polled.2.1.isStarted = true ∧ polled.2.1.core.lastFailure = some failure) ∧
      (tracker.detector.minSize = tracker.params.minSize ∧ tracker.detector.maxSize = tracker.params.maxSize) ∧
      ∀ future : List Deed,
        (∀ count < future.length, (paramsOf (world.run (future.take count)).stage.core).validate ≠ .ok ()) →
        (world.run future).stage.body.params = tracker.params ∧
          (world.run future).stage.body.detector = tracker.detector := by
  intro world silenced shown updated polled tracker
  have inStep : InStep world ⟨fabric.feeds.size⟩ ⟨fabric.feeds.size + 1⟩ := inStep_of_own own
  have configured : tracker.Configured := configured_run Tracker.Fresh.standard.configured past
  refine ⟨_, _, inStep.outfitted.apart, inStep.outfitted.outputs, inStep.equal, ?_, ?_,
    fun mask failure answers shown gray faulty => poll_refused inStep configured answers shown gray faulty,
    configured.sizes, fun future misfit => run_misfit configured misfit⟩
  · exact (answered inStep.outfitted configured).issued
  · by_cases answers : world.Answers .poll
    · have issued := (answered inStep.hushed.outfitted configured).issued
      simp only [polled, poll_of_answers answers]
      rw [fabric_settle]
      exact issued
    · simp only [polled, poll_of_not_answers answers, true_or]

/-- A box is tracked and published; then a lower limit is written that exceeds the upper one, and a mask comes
without the box. -/
def misfitted : List Deed :=
  [.connect (some ⟨0⟩) 0, .start, .push ⟨0⟩ (.image ((Image.blank 12 12 1).fillRect 1 1 9 9 255)), .poll,
    .write "min_size" (.int 26), .push ⟨0⟩ (.image (.blank 12 12 1))]

theorem outputs_stay_in_step_misfitted :
    (∀ feed payload, .push feed payload ∈ misfitted → feed ∉ (make maskFeed).stage.core.outputFeeds) ∧
    let world := (make maskFeed).run misfitted
    let polled := Behaviour.poll world.stage world.fabric
    world.stage.core.outputFeeds = [⟨1⟩, ⟨2⟩] ∧ world.fabric.sequence ⟨1⟩ = 1 ∧ world.fabric.sequence ⟨2⟩ = 1 ∧
    world.stage.body.tracked.length = 1 ∧
    polled.1 = false ∧ polled.2.2.feeds = world.fabric.feeds ∧ Spared world.stage.body polled.2.1.body ∧
    polled.2.1.core.lastFailure = some (sizeFailure (.maxBelowMin 25 26)) ∧
    (world.run [.poll, .write "max_age" (.int 5), .poll]).stage.body.params = TrackerParams.standard := by
  have own : ∀ feed payload, .push feed payload ∈ misfitted → feed ∉ (make maskFeed).stage.core.outputFeeds := by
    intro feed payload pushed
    simp only [misfitted, List.mem_cons, reduceCtorEq, Deed.push.injEq, List.not_mem_nil, or_false, false_or] at pushed
    rcases pushed with ⟨rfl, -⟩ | ⟨rfl, -⟩ <;> decide
  obtain ⟨drawn, told, -, outputs, equal, -, -, refuses, -, stay⟩ := outputs_stay_in_step maskFeed misfitted own
  have known : ((make maskFeed).run misfitted).stage.core.outputFeeds = [⟨1⟩, ⟨2⟩] := by decide +kernel
  cases outputs.symm.trans known
  have answers : ((make maskFeed).run misfitted).Answers .poll := by decide +kernel
  have shown : mask? ((make maskFeed).run misfitted).stage ((make maskFeed).run misfitted).fabric =
      some (.blank 12 12 1) := by decide +kernel
  have faulty : fault? ((make maskFeed).run misfitted).stage.core (.blank 12 12 1) =
      some (sizeFailure (.maxBelowMin 25 26)) := by decide +kernel
  have counted : ((make maskFeed).run misfitted).fabric.sequence ⟨1⟩ = 1 := by decide +kernel
  obtain ⟨idle, kept, spared, -, failure⟩ := refuses _ _ answers shown rfl faulty
  refine ⟨own, known, counted, equal ▸ counted, by decide +kernel, idle, kept, spared, failure, ?_⟩
  rw [(stay [.poll, .write "max_age" (.int 5), .poll] (by decide +kernel)).1]
  decide +kernel

end World

end BlobTracker

end TouchTracking
