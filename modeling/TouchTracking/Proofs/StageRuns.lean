import TouchTracking.Proofs.Contents
import TouchTracking.Proofs.Runs
import TouchTracking.Stage.BlobTracker

/-! Runs of a tracker stage among feeds: everything that its owner and the producers of its input can do,
in any order. Whatever a deed does, its effect on the tracker inside is that of a run of the tracker. -/
namespace TouchTracking.BlobTracker

open Raster (Image Picture)

structure World (ω : Type) where
  stage : Stage Body
  fabric : Fabric ω

inductive Deed
  | push (feed : FeedId) (payload : Payload)
  | poll
  | update
  | start
  | stop
  | connect (feed : Option FeedId) (port : Nat)
  | detachInputs
  | detachFeed (feed : FeedId)
  | write (name : String) (value : Property.Value)

variable {ω : Type}

namespace World

/-- A new stage, among feeds and bells that are there already. -/
def make (fabric : Fabric ω) : World ω :=
  let (stage, fabric) := BlobTracker.make fabric
  ⟨stage, fabric⟩

/-- A push or a connection that is refused changes nothing. -/
def act (world : World ω) : Deed → World ω
  | .push feed payload => match world.fabric.push feed payload with
    | .ok fabric => { world with fabric }
    | .error _ => world
  | .poll =>
    let (_, stage, fabric) := Behaviour.poll world.stage world.fabric
    ⟨stage, fabric⟩
  | .update =>
    let (_, stage, fabric) := BlobTracker.update world.stage world.fabric
    ⟨stage, fabric⟩
  | .start =>
    let (_, stage, fabric) := world.stage.start world.fabric
    ⟨stage, fabric⟩
  | .stop =>
    let (stage, fabric) := world.stage.stop world.fabric
    ⟨stage, fabric⟩
  | .connect feed port => match world.stage.core.setInput feed port world.fabric with
    | .ok (core, fabric) => ⟨{ world.stage with core }, fabric⟩
    | .error _ => world
  | .detachInputs =>
    let (core, fabric) := world.stage.core.detachInputs world.fabric
    ⟨{ world.stage with core }, fabric⟩
  | .detachFeed feed =>
    let (core, fabric) := world.stage.core.detachFeed feed world.fabric
    ⟨{ world.stage with core }, fabric⟩
  | .write name value =>
    let (_, core, fabric) := world.stage.core.setProperty name value world.fabric
    ⟨{ world.stage with core }, fabric⟩

def run (world : World ω) : List Deed → World ω
  | [] => world
  | deed :: deeds => run (world.act deed) deeds

end World

theorem pushTo_ok {core : Core} {port : Nat} {payload : Payload} {fabric next : Fabric ω}
    (pushed : pushTo core port payload fabric = .ok next) :
    ∃ target, core.output? port = some target ∧ fabric.push target payload = .ok next := by
  unfold pushTo at pushed
  split at pushed
  next => cases pushed
  next target aimed =>
    cases accepted : fabric.push target payload with
    | error => rw [accepted] at pushed; cases pushed
    | ok next' =>
      rw [accepted] at pushed
      cases pushed
      exact ⟨target, aimed, accepted⟩

theorem pushTo_of_format {core : Core} {port : Nat} {feed : FeedId} (payload : Payload) {fabric : Fabric ω}
    (output : core.output? port = some feed) (format : fabric.format? feed = some payload.format) :
    ∃ next, pushTo core port payload fabric = .ok next ∧ fabric.push feed payload = .ok next := by
  obtain ⟨next, accepted⟩ := Fabric.push_of_format payload format
  refine ⟨next, ?_, accepted⟩
  simp only [pushTo, output, accepted]
  rfl

def halt (stage : Stage Body) : Stage Body :=
  if stage.isStarted then (release stage).setPhase .stopped else stage

theorem stopBy_onStop (stage : Stage Body) (fabric : Fabric ω) : stage.stopBy onStop fabric = (halt stage, fabric) := by
  unfold halt Stage.stopBy
  split <;> rfl

inductive Updated (stage : Stage Body) (fabric : Fabric ω) :
    Except Failure Unit × Stage Body × Fabric ω → Prop
  | idle (none : mask? stage fabric = none) :
      Updated stage fabric (.ok (), stage, fabric)
  | colored (mask : Image) (shown : mask? stage fabric = some mask)
      (colored : mask.channels ≠ 1) :
      Updated stage fabric (.error (wrongChannels mask.channels), halt stage, fabric)
  | misfit (mask : Image) (shown : mask? stage fabric = some mask)
      (gray : mask.channels = 1) (error : SizeError) (refused : syncParams stage = .error error) :
      Updated stage fabric (.error (sizeFailure error), stage, fabric)
  | unseen (mask : Image) (shown : mask? stage fabric = some mask)
      (gray : mask.channels = 1) (synced : Stage Body) (sync : syncParams stage = .ok synced)
      (error : FrameError) (refused : synced.body.process mask = .error error) :
      Updated stage fabric (.error ⟨.runtime, error.message⟩, layOut mask synced, fabric)
  | tracked (mask : Image) (shown : mask? stage fabric = some mask)
      (gray : mask.channels = 1) (synced : Stage Body) (sync : syncParams stage = .ok synced)
      (touches : List Touch) (tracker : Tracker)
      (processed : synced.body.process mask = .ok (touches, tracker))
      (picture : Picture) (drawn : tracker.drawn (canvasFor mask synced.body.canvas) = picture)
      (result : Except Failure Unit) (next : Fabric ω)
      (published : publish synced.core picture.image touches fabric = (result, next)) :
      Updated stage fabric (result, { synced with body := ⟨tracker, some picture⟩ }, next)

theorem updated (stage : Stage Body) (fabric : Fabric ω) :
    Updated stage fabric (update stage fabric) := by
  unfold update updateBy
  split
  next none => exact .idle none
  next mask shown =>
    split
    next gray =>
      unfold track
      split
      next error refused => exact .misfit mask shown gray error refused
      next synced sync =>
        split
        next error refused => exact .unseen mask shown gray synced sync error refused
        next touches tracker processed =>
          exact .tracked mask shown gray synced sync touches tracker processed _ rfl _ _ rfl
    next colored =>
      rw [stopBy_onStop]
      exact .colored mask shown colored

/-- A later state of a tracker that has been used in between. -/
def Follows (before after : Tracker) : Prop := ∃ actions, after = before.run actions

theorem Follows.refl (tracker : Tracker) : Follows tracker tracker := ⟨[], rfl⟩

theorem Follows.trans {first second third : Tracker} (begun : Follows first second)
    (continued : Follows second third) : Follows first third := by
  obtain ⟨actions, rfl⟩ := begun
  obtain ⟨actions', rfl⟩ := continued
  exact ⟨actions ++ actions', (Tracker.run_append ..).symm⟩

theorem follows_clear (tracker : Tracker) : Follows tracker tracker.clear := ⟨[.clear], rfl⟩

theorem follows_process {tracker next : Tracker} {mask : Image} {touches : List Touch}
    (processed : tracker.process mask = .ok (touches, next)) : Follows tracker next :=
  ⟨[.process mask], by simp only [Tracker.run, Tracker.perform, processed]⟩

/-- Taking the parameters over leaves everything else of the stage alone. -/
theorem syncParams_ok {stage synced : Stage Body} (sync : syncParams stage = .ok synced) :
    synced.core = stage.core ∧ Follows stage.body synced.body := by
  unfold syncParams at sync
  simp only at sync
  split at sync
  next =>
    cases sync
    exact ⟨rfl, .refl _⟩
  next =>
    cases configured : stage.body.setParams (paramsOf stage.core) with
    | error => rw [configured] at sync; cases sync
    | ok body =>
      rw [configured] at sync
      cases sync
      exact ⟨rfl, [.setParams (paramsOf stage.core)], by
        simp only [Tracker.run, Tracker.perform, configured]⟩

theorem syncParams_of_eq {stage : Stage Body} (same : paramsOf stage.core = stage.body.params) :
    syncParams stage = .ok stage := if_pos same

theorem syncParams_of_valid (stage : Stage Body) (valid : (paramsOf stage.core).validate = .ok ()) :
    ∃ body, syncParams stage = .ok { stage with body } ∧ body.params = paramsOf stage.core := by
  by_cases same : paramsOf stage.core = stage.body.params
  · exact ⟨stage.body, syncParams_of_eq same, same.symm⟩
  · unfold TrackerParams.validate at valid
    cases fitting : (paramsOf stage.core).detector with
    | error =>
      rw [fitting] at valid
      cases valid
    | ok detector =>
      refine ⟨{ stage.body with params := paramsOf stage.core, detector }, ?_, rfl⟩
      simp only [syncParams, if_neg same, Tracker.setParams, fitting]
      rfl

theorem follows_halt (stage : Stage Body) : Follows stage.body (halt stage).body := by
  unfold halt
  split
  · exact follows_clear _
  · exact .refl _

theorem follows_update (stage : Stage Body) (fabric : Fabric ω) :
    Follows stage.body (update stage fabric).2.1.body := by
  have step := updated stage fabric
  generalize update stage fabric = outcome at step
  cases step with
  | idle => exact .refl _
  | colored => exact follows_halt stage
  | misfit => exact .refl _
  | unseen mask _ _ synced sync => exact (syncParams_ok sync).2
  | tracked mask _ _ synced sync touches tracker processed =>
    exact (syncParams_ok sync).2.trans (follows_process processed)

/-- An update changes nothing of the core but its phase. -/
theorem core_update (stage : Stage Body) (fabric : Fabric ω) :
    ∃ phase, (update stage fabric).2.1.core = { stage.core with phase } := by
  have step := updated stage fabric
  generalize update stage fabric = outcome at step
  cases step with
  | idle | misfit => exact ⟨_, rfl⟩
  | colored =>
    unfold halt
    split <;> exact ⟨_, rfl⟩
  | unseen mask _ _ synced sync => exact ⟨_, (syncParams_ok sync).1⟩
  | tracked mask _ _ synced sync => exact ⟨_, (syncParams_ok sync).1⟩

theorem follows_onStart (stage : Stage Body) (fabric : Fabric ω) :
    Follows stage.body (onStart stage fabric).2.1.body := by
  unfold onStart
  split
  next => exact .refl _
  next =>
    split
    next => exact .refl _
    next synced sync => exact (syncParams_ok sync).2.trans (follows_clear _)

@[simp] theorem body_settle (result : Except Failure Bool) (stage : Stage Body)
    (fabric : Fabric ω) : (Stage.settle (result, stage, fabric)).2.1.body = stage.body := by
  cases result <;> rfl

@[simp] theorem fabric_settle (result : Except Failure Bool) (stage : Stage Body)
    (fabric : Fabric ω) : (Stage.settle (result, stage, fabric)).2.2 = fabric := by
  cases result <;> rfl

/-- A poll is an update that silences the bell first, or nothing. -/
theorem poll_eq (stage : Stage Body) (fabric : Fabric ω) :
    Behaviour.poll stage fabric =
      if stage.isStarted && fabric.isRinging stage.core.bell then
        let outcome := update stage (fabric.silence stage.core.bell)
        Stage.settle (outcome.1.map fun () => true, outcome.2)
      else (false, stage, fabric) := rfl

theorem follows_poll (stage : Stage Body) (fabric : Fabric ω) :
    Follows stage.body (Behaviour.poll stage fabric).2.1.body := by
  rw [poll_eq]
  split
  · rw [body_settle]
    exact follows_update ..
  · exact .refl _

/-- A poll changes nothing of the core but its phase and its latest failure. -/
theorem core_poll (stage : Stage Body) (fabric : Fabric ω) :
    ∃ phase lastFailure,
      (Behaviour.poll stage fabric).2.1.core = { stage.core with phase, lastFailure } := by
  rw [poll_eq]
  split
  next =>
    obtain ⟨phase, same⟩ := core_update stage (fabric.silence stage.core.bell)
    generalize update stage (fabric.silence stage.core.bell) = outcome at same
    obtain ⟨result, ⟨core, body⟩, after⟩ := outcome
    cases same
    cases result <;> exact ⟨_, _, rfl⟩
  next => exact ⟨_, _, rfl⟩

theorem fabric_onStart (stage : Stage Body) (fabric : Fabric ω) :
    (onStart stage fabric).2.2 = fabric := by
  unfold onStart
  split
  next => rfl
  next => split <;> rfl

theorem core_onStart (stage : Stage Body) (fabric : Fabric ω) :
    (onStart stage fabric).2.1.core = stage.core := by
  unfold onStart
  split
  next => rfl
  next =>
    split
    next => rfl
    next synced sync => exact (syncParams_ok sync).1

/-- A start leaves the feeds alone, and does to the tracker inside what the hook does to it. -/
theorem start_spec (stage : Stage Body) (fabric : Fabric ω) :
    ((stage.start fabric).2.1.body = stage.body ∨
      (stage.start fabric).2.1.body = (onStart stage fabric).2.1.body) ∧
    (stage.start fabric).2.2 = fabric := by
  have unchanged := fabric_onStart stage fabric
  unfold Stage.start
  split
  next => exact ⟨.inl rfl, rfl⟩
  next =>
    cases outcome : onStart stage fabric with
    | mk result after =>
      rw [outcome] at unchanged
      rw [show Behaviour.onStart stage fabric = _ from outcome]
      cases result with
      | error failure => exact ⟨.inr rfl, unchanged⟩
      | ok started => exact ⟨.inr rfl, unchanged⟩

/-- A start changes nothing of the core but its phase and its latest failure. -/
theorem core_start (stage : Stage Body) (fabric : Fabric ω) :
    ∃ phase lastFailure, (stage.start fabric).2.1.core = { stage.core with phase, lastFailure } := by
  have begun := core_onStart stage fabric
  unfold Stage.start
  split
  next => exact ⟨_, _, rfl⟩
  next =>
    cases outcome : onStart stage fabric with
    | mk result after =>
      rw [outcome] at begun
      rw [show Behaviour.onStart stage fabric = _ from outcome]
      obtain ⟨⟨core, body⟩, fabric'⟩ := after
      obtain rfl : core = stage.core := begun
      cases result <;> exact ⟨_, _, rfl⟩

theorem follows_start (stage : Stage Body) (fabric : Fabric ω) :
    Follows stage.body (stage.start fabric).2.1.body := by
  rcases (start_spec stage fabric).1 with idle | begun
  · rw [idle]
    exact .refl _
  · rw [begun]
    exact follows_onStart stage fabric

theorem fabric_stop (stage : Stage Body) (fabric : Fabric ω) :
    (stage.stop fabric).2 = fabric := by
  unfold Stage.stop Stage.stopBy
  split <;> rfl

theorem core_stop (stage : Stage Body) (fabric : Fabric ω) :
    ∃ phase, (stage.stop fabric).1.core = { stage.core with phase } := by
  unfold Stage.stop Stage.stopBy
  split <;> exact ⟨_, rfl⟩

theorem follows_stop (stage : Stage Body) (fabric : Fabric ω) :
    Follows stage.body (stage.stop fabric).1.body := by
  unfold Stage.stop Stage.stopBy
  split
  · exact follows_clear _
  · exact .refl _

namespace World

theorem follows_act (world : World ω) (deed : Deed) :
    Follows world.stage.body (world.act deed).stage.body := by
  cases deed with
  | push feed payload =>
    simp only [act]
    split <;> exact .refl _
  | poll => exact follows_poll ..
  | update => exact follows_update ..
  | start => exact follows_start ..
  | stop => exact follows_stop ..
  | connect feed port =>
    simp only [act]
    split <;> exact .refl _
  | detachInputs => exact .refl _
  | detachFeed => exact .refl _
  | write => exact .refl _

theorem follows_run (world : World ω) (deeds : List Deed) :
    Follows world.stage.body (world.run deeds).stage.body := by
  induction deeds generalizing world with
  | nil => exact .refl _
  | cons deed deeds ih => exact (follows_act world deed).trans (ih _)

theorem run_append (world : World ω) (first second : List Deed) :
    world.run (first ++ second) = (world.run first).run second := by
  induction first generalizing world with
  | nil => rfl
  | cons deed first ih => exact ih _

end World

end TouchTracking.BlobTracker
