import TouchTracking.Proofs.Bags
import TouchTracking.Proofs.Naming
import TouchTracking.Proofs.Ticks

/-! Waits that are counted. A bell says that there is news, and since when. The two are set together but used up apart:
a tick takes the moment before the stage takes the news, and a step outside of a tick takes the news alone. Still a bell
that rings always says since when, and so a tick that counts a step of a tracker counts its wait as well. A source has
no news to wait for. -/
namespace TouchTracking

variable {ω : Type}

/-- A bell that rings says since when. -/
def Bell.Dated (bell : Bell) : Prop := bell.ringing = true → bell.since.isSome = true

theorem Bell.dated_of_silent {bell : Bell} (silent : bell.ringing = false) : bell.Dated :=
  fun ringing => absurd (silent.symm.trans ringing) Bool.false_ne_true

theorem Bell.dated_ring (bell : Bell) (now : Nat) : (bell.ring now).Dated := by
  intro _
  cases since : bell.since <;> simp [ring, since]

namespace Fabric

def Dated (fabric : Fabric ω) : Prop := ∀ id bell, fabric.bell? id = some bell → bell.Dated

theorem bell?_modifyBell (fabric : Fabric ω) (id other : BellId) (change : Bell → Bell) :
    (fabric.modifyBell id change).bell? other =
      if other = id then (fabric.bell? id).map change else fabric.bell? other := by
  obtain ⟨index⟩ := id
  obtain ⟨index'⟩ := other
  simp only [bell?, modifyBell, Array.getElem?_modify, BellId.mk.injEq, eq_comm]
  split
  next same => rw [same]
  next => rfl

variable {fabric after : Fabric ω}

theorem dated_iff : fabric.Dated ↔ ∀ id, fabric.isRinging id = true → (fabric.since? id).isSome = true := by
  refine forall_congr' fun id => ?_
  rw [isRinging, since?]
  cases fabric.bell? id with
  | none => simp
  | some bell => simp [Bell.Dated]

theorem dated_empty (surroundings : ω) : (empty surroundings).Dated := nofun

theorem Dated.congr (dated : fabric.Dated) (same : after.bells = fabric.bells) : after.Dated := by
  intro id bell found
  rw [bell?, same] at found
  exact dated id bell found

theorem Dated.modifyBell (dated : fabric.Dated) (id : BellId) {change : Bell → Bell}
    (kept : ∀ bell : Bell, bell.Dated → (change bell).Dated) : (fabric.modifyBell id change).Dated := by
  intro other bell found
  rw [bell?_modifyBell] at found
  split at found
  next =>
    obtain ⟨old, there, rfl⟩ := Option.map_eq_some_iff.mp found
    exact kept old (dated id old there)
  next => exact dated other bell found

theorem Dated.ring (dated : fabric.Dated) (id : BellId) : (fabric.ring id).Dated :=
  dated.modifyBell id fun bell _ => bell.dated_ring fabric.clock

theorem Dated.silence (dated : fabric.Dated) (id : BellId) : (fabric.silence id).Dated :=
  dated.modifyBell id fun _ _ => Bell.dated_of_silent rfl

/-- To forget since when a bell rings is all right if it is silenced then. -/
theorem Dated.hush (dated : fabric.Dated) (id : BellId) : ((fabric.forgetSince id).silence id).Dated := by
  intro other bell found
  rw [Fabric.silence, bell?_modifyBell] at found
  split at found
  next =>
    obtain ⟨_, -, rfl⟩ := Option.map_eq_some_iff.mp found
    exact Bell.dated_of_silent rfl
  next apart =>
    rw [forgetSince, bell?_modifyBell, if_neg apart] at found
    exact dated other bell found

theorem Dated.foldl_ring (dated : fabric.Dated) (bells : List BellId) : (bells.foldl Fabric.ring fabric).Dated := by
  induction bells generalizing fabric with
  | nil => exact dated
  | cons bell bells ih => exact ih (dated.ring bell)

theorem Dated.push (dated : fabric.Dated) {id : FeedId} {payload : Payload}
    (accepted : fabric.push id payload = .ok after) : after.Dated := by
  cases pushed id accepted with
  | nowhere => exact dated
  | taken target feed =>
    have modified : (fabric.modifyFeed id fun _ => feed).Dated := dated.congr rfl
    exact modified.foldl_ring feed.observers

theorem Dated.addBell (dated : fabric.Dated) (owner : String) : (fabric.addBell owner).2.Dated := by
  intro id bell found
  simp only [Fabric.addBell, bell?, Array.getElem?_push] at found
  split at found
  next =>
    cases found
    exact Bell.dated_of_silent rfl
  next => exact dated id bell found

end Fabric

namespace Core

variable {fabric after : Fabric ω}

theorem bells_leave (core : Core) (feed : Option FeedId) (fabric : Fabric ω) :
    (core.leave feed fabric).bells = fabric.bells := by
  cases feed <;> rfl

theorem bells_foldl_leave (core : Core) (inputs : List InputPort) (fabric : Fabric ω) :
    (inputs.foldl (fun fabric input => core.leave input.feed fabric) fabric).bells = fabric.bells := by
  induction inputs generalizing fabric with
  | nil => rfl
  | cons input inputs ih => exact (ih _).trans (bells_leave ..)

theorem bells_detachFeed (core : Core) (feed : FeedId) (fabric : Fabric ω) :
    (core.detachFeed feed fabric).2.bells = fabric.bells := by
  unfold detachFeed
  split <;> rfl

theorem bells_addOutputs (ports : List Port) (fabric : Fabric ω) :
    (addOutputs fabric ports).2.bells = fabric.bells := by
  induction ports generalizing fabric with
  | nil => rfl
  | cons port ports ih => exact ih _

theorem dated_make (dated : fabric.Dated) (info : StageInfo) (inputs outputs : List Port) :
    (make info inputs outputs fabric).2.Dated :=
  (dated.addBell _).congr (bells_addOutputs outputs _)

theorem dated_join (dated : fabric.Dated) (core : Core) (feed : Option FeedId) : (core.join feed fabric).Dated := by
  cases feed with
  | none => exact dated
  | some feed =>
    have subscribed : (fabric.subscribe feed core.bell).Dated := dated.congr rfl
    simp only [join]
    split
    · exact subscribed.ring core.bell
    · exact subscribed

theorem dated_setProperty (dated : fabric.Dated) (core : Core) (name : String) (value : Property.Value) :
    (core.setProperty name value fabric).2.2.Dated := by
  unfold setProperty
  split
  next written =>
    unfold writeProperty assignId at written
    repeat' split at written
    all_goals cases written
    · exact dated.modifyBell core.bell fun _ kept => kept
    · exact dated
  next => exact dated

theorem dated_setInput (dated : fabric.Dated) {core next : Core} {feed : Option FeedId} {port : Nat}
    (connected : core.setInput feed port fabric = .ok (next, after)) : after.Dated := by
  obtain ⟨-, -, -, rfl⟩ := setInput_ok connected
  have left : (core.leave (core.input? port) fabric).Dated := dated.congr (bells_leave ..)
  exact dated_join left core feed

end Core

/-- What the counts of a stage say: a source has never waited for anything, and a tracker has waited whenever it has
worked. -/
def Stage.Tallied (stage : Stage Builtin) : Prop :=
  stage.core.stats.wait.count = if stage.body.isLeft then 0 else stage.core.stats.process.count

variable {stage next : Stage Builtin} {fabric after : Fabric ω}

/-- What is done to a stage outside of a tick: nothing is counted, and bells that ring go on saying since when. -/
structure Timely (stage : Stage Builtin) (fabric : Fabric ω) (next : Stage Builtin) (after : Fabric ω) : Prop where
  stats : next.core.stats = stage.core.stats
  kind : next.body.isLeft = stage.body.isLeft
  dated : fabric.Dated → after.Dated

theorem Timely.refl (stage : Stage Builtin) (fabric : Fabric ω) : Timely stage fabric stage fabric := ⟨rfl, rfl, id⟩

theorem Timely.tallied (timely : Timely stage fabric next after) (tallied : stage.Tallied) : next.Tallied := by
  rw [Stage.Tallied, timely.stats, timely.kind]
  exact tallied

/-- A failure that is kept is not counted. -/
theorem Timely.settle {β : Type} {wrap : β → Builtin} {body : Stage β}
    (timely : Timely stage fabric (body.mapBody wrap) after) (result : Except Failure Bool) :
    let settled := Stage.settle (result, body, after)
    Timely stage fabric (settled.2.1.mapBody wrap) settled.2.2 := by
  cases result with
  | ok => exact timely
  | error => exact ⟨timely.stats, timely.kind, timely.dated⟩

/-- A step that worked is counted as the kind of the stage has it: with its wait for a tracker, without one for a
source. -/
theorem Stage.Tallied.recordStep (tallied : stage.Tallied) {since : Option Nat}
    (waited : since.isSome = !stage.body.isLeft) (began : Nat) (fabric : Fabric ω) :
    (Pipeline.recordStep began since stage fabric).Tallied := by
  unfold Stage.Tallied at tallied ⊢
  cases since with
  | none =>
    have source : stage.body.isLeft = true := by simpa using waited
    rw [if_pos source] at tallied
    exact (if_pos source).symm ▸ tallied
  | some moment =>
    have tracker : ¬ stage.body.isLeft = true := by simpa using waited
    rw [if_neg tracker] at tallied
    exact (if_neg tracker).symm ▸ congrArg (· + 1) tallied

namespace Builtin

/-! The hooks of the kinds of stage. -/

theorem dated_pushTo (dated : fabric.Dated) {core : Core} {port : Nat} {payload : Payload}
    (pushed : BlobTracker.pushTo core port payload fabric = .ok after) : after.Dated := by
  obtain ⟨_, _, accepted⟩ := BlobTracker.pushTo_ok pushed
  exact dated.push accepted

theorem dated_publish (dated : fabric.Dated) (core : Core) (picture : Raster.Image) (touches : List Touch) :
    (BlobTracker.publish core picture touches fabric).2.Dated := by
  unfold BlobTracker.publish
  split
  next => exact dated
  next drawn =>
    have first := dated_pushTo dated drawn
    split
    next => exact first
    next told => exact dated_pushTo first told

theorem timely_update (core : Core) (tracker : BlobTracker.Body) (fabric : Fabric ω) :
    let outcome := BlobTracker.update ⟨core, tracker⟩ fabric
    Timely ⟨core, .inr tracker⟩ fabric (outcome.2.1.mapBody .inr) outcome.2.2 := by
  obtain ⟨phase, same⟩ := BlobTracker.core_update ⟨core, tracker⟩ fabric
  refine ⟨(congrArg Core.stats same :), rfl, fun dated => ?_⟩
  have step := BlobTracker.updated ⟨core, tracker⟩ fabric
  generalize BlobTracker.update ⟨core, tracker⟩ fabric = outcome at step
  cases step with
  | idle | misfit | colored | unseen => exact dated
  | tracked mask _ _ synced _ touches tracker _ picture _ result next published =>
    have told := dated_publish dated synced.core picture.image touches
    rwa [published] at told

theorem timely_tick (core : Core) (source : Source SquareSource) (fabric : Fabric ω) :
    let outcome := Source.tick ⟨core, source⟩ fabric
    Timely ⟨core, .inl source⟩ fabric (outcome.2.1.mapBody .inl) outcome.2.2 := by
  refine ⟨(congrArg Core.stats (tick_spec fabric ⟨core, source⟩).2 :), rfl, fun dated => ?_⟩
  have captured : Fabric.Dated { fabric with
      surroundings := (Camera.capture source.camera fabric.surroundings).2.2 } := dated.congr rfl
  rcases Source.tick_fabric ⟨core, source⟩ fabric with unpublished | ⟨_, _, -, accepted⟩
  · exact unpublished ▸ captured
  · exact captured.push accepted

theorem timely_onStart (stage : Stage Builtin) (fabric : Fabric ω) :
    Timely stage fabric (Behaviour.onStart stage fabric).2.1 (Behaviour.onStart stage fabric).2.2 := by
  obtain ⟨core, body⟩ := stage
  cases body with
  | inl source => exact ⟨rfl, rfl, fun dated => dated.congr rfl⟩
  | inr tracker =>
    have kept := BlobTracker.core_onStart ⟨core, tracker⟩ fabric
    have same := BlobTracker.fabric_onStart ⟨core, tracker⟩ fabric
    exact ⟨(congrArg Core.stats kept :), rfl, fun dated => dated.congr (congrArg Fabric.bells same)⟩

theorem timely_start (stage : Stage Builtin) (fabric : Fabric ω) :
    Timely stage fabric (stage.start fabric).2.1 (stage.start fabric).2.2 := by
  have begun := timely_onStart stage fabric
  unfold Stage.start
  split
  next => exact .refl ..
  next =>
    generalize Behaviour.onStart stage fabric = outcome at begun
    obtain ⟨result, next, after⟩ := outcome
    cases result <;> exact ⟨begun.stats, begun.kind, begun.dated⟩

theorem timely_stop (stage : Stage Builtin) (fabric : Fabric ω) :
    Timely stage fabric (stage.stop fabric).1 (stage.stop fabric).2 := by
  obtain ⟨core, body⟩ := stage
  unfold Stage.stop Stage.stopBy
  split
  next => cases body <;> exact ⟨rfl, rfl, fun dated => dated.congr rfl⟩
  next => exact .refl ..

/-- A step by hand takes the news but not the moment, which a tick would have taken before. -/
theorem timely_poll (stage : Stage Builtin) (fabric : Fabric ω) :
    Timely stage fabric (Behaviour.poll stage fabric).2.1 (Behaviour.poll stage fabric).2.2 := by
  obtain ⟨core, body⟩ := stage
  have poll := polled fabric ⟨core, body⟩
  generalize Behaviour.poll (⟨core, body⟩ : Stage Builtin) fabric = outcome at poll
  cases poll with
  | off | quiet => exact .refl ..
  | ticked source kind _ _ done =>
    cases kind
    cases done
    exact (timely_tick core source fabric).settle _
  | updated tracker kind _ _ _ done =>
    cases kind
    cases done
    have step := timely_update core tracker (fabric.silence core.bell)
    have silenced : Timely ⟨core, .inr tracker⟩ fabric _ _ :=
      ⟨step.stats, step.kind, fun dated => step.dated (dated.silence core.bell)⟩
    exact silenced.settle _

end Builtin

namespace Bench

theorem timely_perform (stage : Stage Builtin) (fabric : Fabric ω) (job : Job) :
    Timely stage fabric (job.perform stage fabric).1 (job.perform stage fabric).2 := by
  cases job with
  | connect feed port =>
    simp only [Job.perform]
    split
    next =>
      split
      next connected =>
        obtain ⟨-, -, rfl, -⟩ := Core.setInput_ok connected
        exact ⟨rfl, rfl, fun dated => Core.dated_setInput dated connected⟩
      next => exact .refl ..
    next => exact .refl ..
  | detachInputs => exact ⟨rfl, rfl, fun dated => dated.congr (Core.bells_foldl_leave ..)⟩
  | detachFeed feed =>
    refine ⟨?_, rfl, fun dated => dated.congr (Core.bells_detachFeed ..)⟩
    simp only [Job.perform, Core.detachFeed]
    split <;> rfl
  | start => exact Builtin.timely_start stage fabric
  | stop => exact Builtin.timely_stop stage fabric
  | poll => exact Builtin.timely_poll stage fabric
  | update =>
    obtain ⟨core, body⟩ := stage
    cases body with
    | inl source => exact .refl ..
    | inr tracker => exact Builtin.timely_update core tracker fabric
  | write name value =>
    obtain ⟨_, _, same⟩ := (stage.core.setProperty_same name value fabric).1
    exact ⟨(congrArg Core.stats same :), rfl, fun dated => Core.dated_setProperty dated stage.core name value⟩

end Bench

namespace Pipeline

open Builtin (Fits)

/-- A step is counted with the wait that belongs to its kind of stage, and the bells stay as the step left them. -/
theorem tallied_conclude {β : Type} {wrap : β → Builtin} {next : Stage β} {after : Fabric ω} (dated : after.Dated)
    (tallied : (next.mapBody wrap).Tallied) {since : Option Nat}
    (waited : since.isSome = !(wrap next.body).isLeft) (began : Nat) (result : Except Failure Bool) :
    let concluded := conclude wrap began since (result, next, after)
    concluded.2.1.Tallied ∧ concluded.2.2.Dated := by
  cases result with
  | error => exact ⟨tallied, dated⟩
  | ok worked =>
    cases worked with
    | false => exact ⟨tallied, dated⟩
    | true => exact ⟨tallied.recordStep waited began after, dated⟩

/-- A turn takes the moment together with the news, and counts both the step and its wait or neither. -/
theorem tallied_turn (fits : Fits stage fabric) (dated : fabric.Dated) (tallied : stage.Tallied) :
    (turn stage fabric).2.1.Tallied ∧ (turn stage fabric).2.2.Dated := by
  by_cases started : stage.isStarted = true
  · obtain ⟨core, body⟩ := stage
    cases body with
    | inl source =>
      have step := Builtin.timely_tick core source fabric
      rw [turn_of_source rfl fits started]
      generalize Source.tick ⟨core, source⟩ fabric = outcome at step
      obtain ⟨result, next, after⟩ := outcome
      exact tallied_conclude (step.dated dated) (step.tallied tallied) rfl fabric.clock result
    | inr tracker =>
      cases ringing : fabric.isRinging core.bell with
      | false =>
        rw [turn_of_silence rfl ringing]
        exact ⟨tallied, dated⟩
      | true =>
        -- With the moment taken the bell rings undated, but it is silenced before anything else can see that.
        have step := Builtin.timely_update core tracker (hushed ⟨core, .inr tracker⟩ fabric)
        have waited : (fabric.since? core.bell).isSome = true := Fabric.dated_iff.mp dated core.bell ringing
        rw [turn_of_news rfl started ringing]
        generalize BlobTracker.update ⟨core, tracker⟩ (hushed ⟨core, .inr tracker⟩ fabric) = outcome at step
        obtain ⟨result, next, after⟩ := outcome
        exact tallied_conclude (step.dated (dated.hush core.bell)) (step.tallied tallied) waited fabric.clock _
  · rw [turn_of_stopped (Bool.eq_false_iff.mpr started)]
    exact ⟨tallied, dated⟩

end Pipeline

namespace Bench

open Builtin (Fits)

theorem tallied_deed (deed : Deed) (fits : Fits stage fabric) (dated : fabric.Dated) (tallied : stage.Tallied) :
    (deed.perform stage fabric).1.Tallied ∧ (deed.perform stage fabric).2.Dated := by
  cases deed with
  | hand job =>
    have timely := timely_perform stage fabric job
    exact ⟨timely.tallied tallied, timely.dated dated⟩
  | turn => exact Pipeline.tallied_turn fits dated tallied
  | lock =>
    have same : stage.core.lockId.stats = stage.core.stats := (congrArg Core.stats stage.core.lockId_same :)
    have timely : Timely stage fabric { stage with core := stage.core.lockId } fabric := ⟨same, rfl, id⟩
    exact ⟨timely.tallied tallied, dated⟩

/-- The bells are dated, and the counts of all stages agree. -/
structure Counted (stages : List (Stage Builtin)) (fabric : Fabric ω) : Prop where
  dated : fabric.Dated
  tallied : ∀ stage ∈ stages, stage.Tallied

theorem counted_invariant : Invariant fun stages (fabric : Fabric ω) => Counted stages fabric where
  perm counted permuted :=
    ⟨counted.dated, fun stage member => counted.tallied stage (permuted.mem_iff.mpr member)⟩
  sublist counted fewer := ⟨counted.dated, fun stage member => counted.tallied stage (fewer.subset member)⟩
  made := by
    intro stages fabric kind make _ counted known
    obtain ⟨info, inputs, outputs, entries, core, after, -⟩ := constructed known fabric
    refine ⟨after ▸ Core.dated_make counted.dated info inputs outputs, fun stage member => ?_⟩
    rcases List.mem_cons.mp member with rfl | old
    · have zero : (make fabric).1.core.stats = StageStats.zero := by
        rw [core, Core.foldl_register_same]
        rfl
      rw [Stage.Tallied, zero]
      exact (ite_self 0).symm
    · exact counted.tallied stage old
  done := by
    intro stage others fabric deed orderly counted
    obtain ⟨tallied, dated⟩ := tallied_deed deed (orderly.fits stage List.mem_cons_self) counted.dated
      (counted.tallied stage List.mem_cons_self)
    refine ⟨dated, fun other member => ?_⟩
    rcases List.mem_cons.mp member with rfl | beside
    · exact tallied
    · exact counted.tallied other (List.mem_cons_of_mem _ beside)
  pushed _ counted accepted := ⟨counted.dated.push accepted, counted.tallied⟩
  extended _ _ _ counted := ⟨counted.dated.congr rfl, counted.tallied⟩

def clocked (bench : Bench ω Builtin) (clock : Nat) : Bench ω Builtin :=
  { bench with fabric := { bench.fabric with clock } }

/-- What a controller does, and what the clock shows each time. -/
def live (bench : Bench ω Builtin) : List (Nat × Action) → Bench ω Builtin
  | [] => bench
  | (clock, action) :: rest => live ((bench.clocked clock).act action) rest

section Live

variable {property : List (Stage Builtin) → Fabric ω → Prop} (invariant : Invariant property)
  (timeless : ∀ stages fabric clock, property stages fabric → property stages { fabric with clock })

include invariant timeless

theorem holds_at {bench : Bench ω Builtin} (holds : Holds property bench.stages bench.fabric)
    (clock : Nat) (action : Action) :
    Holds property ((bench.clocked clock).act action).stages ((bench.clocked clock).act action).fabric := by
  have later : Holds property (bench.clocked clock).stages (bench.clocked clock).fabric :=
    ⟨holds.orderly.spared fun _ => ⟨rfl, fun _ => id, fun _ => rfl, .inl⟩, timeless _ _ clock holds.holds⟩
  exact holds_act invariant later action

/-- What everything on a bench keeps, and what does not depend on the time, holds whatever a controller does and
whenever. -/
theorem holds_live (surroundings : ω) (initial : property [] (Fabric.empty surroundings))
    (past : List (Nat × Action)) :
    let bench := (empty surroundings : Bench ω Builtin).live past
    Holds property bench.stages bench.fabric := by
  have onward {bench : Bench ω Builtin} (holds : Holds property bench.stages bench.fabric)
      (past : List (Nat × Action)) : Holds property (bench.live past).stages (bench.live past).fabric := by
    induction past generalizing bench with
    | nil => exact holds
    | cons entry past ih => exact ih (holds_at invariant timeless holds entry.1 entry.2)
  have start : Holds property (empty surroundings : Bench ω Builtin).stages
      (empty surroundings : Bench ω Builtin).fabric := ⟨Orderly.empty surroundings, initial⟩
  exact onward start past

end Live

/-- Whatever a controller does and whenever: a bell that rings says since when, a source has never waited, and a tracker
has as many waits as frames. -/
theorem waits_cover_frames (surroundings : ω) (past : List (Nat × Action)) :
    let bench := (empty surroundings : Bench ω Builtin).live past
    (∀ bell, bench.fabric.isRinging bell = true → (bench.fabric.since? bell).isSome = true) ∧
    ∀ stage ∈ bench.stages,
      let status := stage.status bench.fabric
      (∀ source, stage.body = .inl source → status.waitedFrames = 0) ∧
      (∀ tracker, stage.body = .inr tracker → status.waitedFrames = status.frames) := by
  intro bench
  have initial : Counted [] (Fabric.empty surroundings) := ⟨Fabric.dated_empty surroundings, nofun⟩
  have timeless (stages : List (Stage Builtin)) (fabric : Fabric ω) (clock : Nat)
      (counted : Counted stages fabric) : Counted stages { fabric with clock } :=
    ⟨counted.dated.congr rfl, counted.tallied⟩
  have counted := (holds_live counted_invariant timeless surroundings initial past).holds
  refine ⟨Fabric.dated_iff.mp counted.dated, fun stage member => ?_⟩
  have tallied := counted.tallied stage member
  unfold Stage.Tallied at tallied
  refine ⟨fun source kind => ?_, fun tracker kind => ?_⟩ <;> rw [kind] at tallied <;> exact tallied

/-- The third tracker answers a mask by hand, which is not counted, and the next one in a tick. Then comes another. -/
def attended : List (Nat × Action) :=
  let mask : Action := .push ⟨7⟩ (.image (.blank 6 6 1))
  Pipeline.chain.map (0, ·) ++ [(5, .tick), (7, mask), (8, .handle "third" .poll), (9, mask), (20, .tick), (30, mask)]

theorem waits_cover_frames_attended :
    let bench := (empty () : Bench Unit Builtin).live attended
    (bench.stages.map fun stage => (stage.id, (stage.status bench.fabric).frames)) =
      [("squares", 2), ("first", 2), ("second", 0), ("third", 2)] ∧
    ∃ stage ∈ bench.stages, stage.id = "third" ∧ (stage.status bench.fabric).waitedFrames = 2 ∧
      bench.fabric.isRinging stage.core.bell = true ∧ (bench.fabric.since? stage.core.bell).isSome = true := by
  intro bench
  obtain ⟨dated, counted⟩ := waits_cover_frames () attended
  have third : ∃ stage ∈ bench.stages, stage.id = "third" ∧ stage.body.isRight = true ∧
      (stage.status bench.fabric).frames = 2 ∧ bench.fabric.isRinging stage.core.bell = true := by decide +kernel
  obtain ⟨stage, member, name, tracks, frames, ringing⟩ := third
  obtain ⟨tracker, kind⟩ := Sum.isRight_iff.mp tracks
  refine ⟨by decide +kernel, stage, member, name, ?_, ringing, dated _ ringing⟩
  exact ((counted stage member).2 tracker kind).trans frames

end Bench

end TouchTracking
