import Mathlib.Data.List.Chain
import TouchTracking.Proofs.Captures
import TouchTracking.Proofs.Handling
import TouchTracking.Proofs.Outlets

/-! The life of a stage of any kind. Its hooks on starting and on stopping are only run by a start and a stop, so that
those that succeed take turns, whoever starts and stops it: its owner, or the stage itself within a step. What is held
between the two hooks is therefore held just while the stage is started: the camera of a source, and what a tracker
tracks.

The hooks are observed as they run: a kind of stage is taken whose hooks leave a record of themselves in its
surroundings. -/
namespace TouchTracking

namespace Stage

/-- A hook that has been run: one on starting, with success, or one on stopping. -/
inductive HookRun
  | began
  | ended
  deriving DecidableEq, Repr

def HookRun.ofStart : Except Failure Unit → List HookRun
  | .ok () => [.began]
  | .error _ => []

variable {ω σ : Type} [Behaviour ω σ] {runs : ω → List HookRun} {stage next : Stage σ}
  {fabric after : Fabric ω}

/-- Some stretch of the life of a stage: starts, stops, and whatever leaves alone its phase and the record. -/
inductive Course (runs : ω → List HookRun) : Stage σ → Fabric ω → Stage σ → Fabric ω → Prop
  | work {stage next : Stage σ} {fabric after : Fabric ω} (phase : next.core.phase = stage.core.phase)
      (quiet : runs after.surroundings = runs fabric.surroundings) : Course runs stage fabric next after
  | start (stage : Stage σ) (fabric : Fabric ω) :
      Course runs stage fabric (stage.start fabric).2.1 (stage.start fabric).2.2
  | stop (stage : Stage σ) (fabric : Fabric ω) :
      Course runs stage fabric (stage.stop fabric).1 (stage.stop fabric).2
  | append {stage middle next : Stage σ} {fabric between after : Fabric ω}
      (first : Course runs stage fabric middle between) (second : Course runs middle between next after) :
      Course runs stage fabric next after

/-- The hook on starting leaves it to the start to move the phase. -/
def Steady (ω σ : Type) [Behaviour ω σ] : Prop := ∀ (stage : Stage σ) (fabric : Fabric ω),
  (Behaviour.onStart stage fabric).2.1.core.phase = stage.core.phase

/-- A kind of stage whose hooks record that they are run. A step may start and stop its stage, but moves the phase in
no other way. -/
structure Recorded (σ : Type) [Behaviour ω σ] (runs : ω → List HookRun) : Prop where
  runs_onStart : ∀ (stage : Stage σ) (fabric : Fabric ω),
    runs (Behaviour.onStart stage fabric).2.2.surroundings =
      runs fabric.surroundings ++ HookRun.ofStart (Behaviour.onStart stage fabric).1
  runs_onStop : ∀ (stage : Stage σ) (fabric : Fabric ω),
    runs (Behaviour.onStop stage fabric).2.surroundings = runs fabric.surroundings ++ [.ended]
  poll : ∀ (stage : Stage σ) (fabric : Fabric ω),
    Course runs stage fabric (Behaviour.poll stage fabric).2.1 (Behaviour.poll stage fabric).2.2

/-- The hooks take turns, the one on starting first, and it is the last one just while the stage is on. -/
structure Paired (runs : List HookRun) (on : Bool) : Prop where
  alternating : runs.IsChain (· ≠ ·)
  first : runs.head? ≠ some .ended
  last : runs.getLast? = some .began ↔ on = true

theorem start_of_started (on : stage.isStarted = true) (fabric : Fabric ω) :
    stage.start fabric = (.error (alreadyStarted stage.id), stage, fabric) := if_pos on

/-- A failure of the hook is handed back and kept. -/
theorem start_of_failure (phase : (Behaviour.onStart stage fabric).2.1.core.phase = stage.core.phase)
    (off : stage.isStarted = false) {failure : Failure}
    (failed : (Behaviour.onStart stage fabric).1 = .error failure) :
    (stage.start fabric).1 = .error failure ∧ (stage.start fabric).2.1.core.phase = stage.core.phase ∧
      (stage.start fabric).2.1.core.lastFailure = some failure := by
  rw [start, if_neg (Bool.eq_false_iff.mp off)]
  generalize Behaviour.onStart stage fabric = outcome at phase failed
  obtain ⟨result, next, after⟩ := outcome
  cases failed
  exact ⟨rfl, phase, rfl⟩

section Turns

variable {runs : List HookRun}

theorem paired_nil : Paired [] false := ⟨.nil, nofun, nofun, nofun⟩

theorem Paired.began (paired : Paired runs false) : Paired (runs ++ [.began]) true where
  alternating := by
    refine List.isChain_append.mpr ⟨paired.alternating, .singleton _, fun run last next follows => ?_⟩
    cases Option.mem_some_iff.mp follows
    rintro rfl
    cases paired.last.mp last
  first := by
    cases runs with
    | nil => nofun
    | cons run runs => exact paired.first
  last := by simp

theorem Paired.ended (paired : Paired runs true) : Paired (runs ++ [.ended]) false where
  alternating := by
    refine List.isChain_append.mpr ⟨paired.alternating, .singleton _, fun run last next follows => ?_⟩
    cases Option.mem_some_iff.mp follows
    rintro rfl
    cases (paired.last.mpr rfl).symm.trans last
  first := by
    cases runs with
    | nil => cases paired.last.mpr rfl
    | cons run runs => exact paired.first
  last := by simp

end Turns

/-- The record of a stage is paired with its phase. -/
def InTurn (runs : ω → List HookRun) (stage : Stage σ) (fabric : Fabric ω) : Prop :=
  Paired (runs fabric.surroundings) stage.isStarted

namespace InTurn

omit [Behaviour ω σ] in
theorem work (inTurn : InTurn runs stage fabric) (phase : next.core.phase = stage.core.phase)
    (quiet : runs after.surroundings = runs fabric.surroundings) : InTurn runs next after := by
  rw [InTurn, quiet, isStarted, Core.isStarted, phase]
  exact inTurn

/-- A start that runs the hook on starting with success leads from off to on, and any other keeps the phase. -/
theorem start (inTurn : InTurn runs stage fabric) (steady : Steady ω σ) (recorded : Recorded σ runs) :
    InTurn runs (stage.start fabric).2.1 (stage.start fabric).2.2 := by
  unfold Stage.start
  split
  next => exact inTurn
  next off =>
    have phase := steady stage fabric
    have noted := recorded.runs_onStart stage fabric
    generalize Behaviour.onStart stage fabric = outcome at phase noted
    obtain ⟨result, next, after⟩ := outcome
    cases result with
    | error failure => exact inTurn.work phase (noted.trans (List.append_nil _))
    | ok =>
      rw [Bool.not_eq_true] at off
      rw [InTurn, off] at inTurn
      show Paired (runs after.surroundings) true
      rw [noted]
      exact inTurn.began

theorem stop (inTurn : InTurn runs stage fabric) (recorded : Recorded σ runs) :
    InTurn runs (stage.stop fabric).1 (stage.stop fabric).2 := by
  unfold Stage.stop stopBy
  split
  next on =>
    rw [InTurn, on] at inTurn
    show Paired (runs (Behaviour.onStop stage fabric).2.surroundings) false
    rw [recorded.runs_onStop]
    exact inTurn.ended
  next => exact inTurn

theorem course (inTurn : InTurn runs stage fabric) (steady : Steady ω σ) (recorded : Recorded σ runs)
    (course : Course runs stage fabric next after) : InTurn runs next after := by
  induction course with
  | work phase quiet => exact inTurn.work phase quiet
  | start stage fabric => exact inTurn.start steady recorded
  | stop stage fabric => exact inTurn.stop recorded
  | append _ _ first second => exact second (first inTurn)

end InTurn

/-- What can happen to a stage: its owner starts it, stops it or lets it step; anything else reaches no more than its
core, whose phase it leaves alone, and its surroundings. -/
inductive Call (ω : Type)
  | start
  | stop
  | poll
  | aside (change : Core → Fabric ω → Core × Fabric ω)
      (kept : ∀ core fabric, (change core fabric).1.phase = core.phase)

def perform (stage : Stage σ) (fabric : Fabric ω) : Call ω → Stage σ × Fabric ω
  | .start => (stage.start fabric).2
  | .stop => stage.stop fabric
  | .poll => (Behaviour.poll stage fabric).2
  | .aside change _ =>
    let (core, fabric) := change stage.core fabric
    ({ stage with core }, fabric)

def performAll (stage : Stage σ) (fabric : Fabric ω) : List (Call ω) → Stage σ × Fabric ω
  | [] => (stage, fabric)
  | call :: calls =>
    let (stage, fabric) := stage.perform fabric call
    stage.performAll fabric calls

/-- A call that is no start, stop or step does not touch the record. -/
def Call.Spares (runs : ω → List HookRun) : Call ω → Prop
  | .start | .stop | .poll => True
  | .aside change _ => ∀ core fabric, runs (change core fabric).2.surroundings = runs fabric.surroundings

theorem InTurn.perform (inTurn : InTurn runs stage fabric) (steady : Steady ω σ) (recorded : Recorded σ runs)
    {call : Call ω} (spares : call.Spares runs) :
    InTurn runs (stage.perform fabric call).1 (stage.perform fabric call).2 := by
  cases call with
  | start => exact inTurn.start steady recorded
  | stop => exact inTurn.stop recorded
  | poll => exact inTurn.course steady recorded (recorded.poll stage fabric)
  | aside change kept => exact inTurn.work (kept stage.core fabric) (spares stage.core fabric)

theorem InTurn.performAll (inTurn : InTurn runs stage fabric) (steady : Steady ω σ) (recorded : Recorded σ runs)
    {calls : List (Call ω)} (spares : ∀ call ∈ calls, call.Spares runs) :
    InTurn runs (stage.performAll fabric calls).1 (stage.performAll fabric calls).2 := by
  induction calls generalizing stage fabric with
  | nil => exact inTurn
  | cons call calls ih =>
    have head := inTurn.perform steady recorded (spares call List.mem_cons_self)
    exact ih head fun call among => spares call (List.mem_cons_of_mem _ among)

theorem performAll_invariant {property : Stage σ → Prop}
    (kept : ∀ stage (fabric : Fabric ω) call, property stage → property (stage.perform fabric call).1)
    (initial : property stage) (fabric : Fabric ω) (calls : List (Call ω)) :
    property (stage.performAll fabric calls).1 := by
  induction calls generalizing stage fabric with
  | nil => exact initial
  | cons call calls ih => exact ih (kept stage fabric call initial) _

theorem course_settle (result : Except Failure Bool) (course : Course runs stage fabric next after) :
    Course runs stage fabric (settle (result, next, after)).2.1 (settle (result, next, after)).2.2 := by
  cases result with
  | ok => exact course
  | error => exact course.append (.work rfl rfl)

/-- A step that waits for news runs the hooks that its update runs. -/
theorem course_pollOnNews {update : Hook ω σ (Except Failure Unit)}
    (updated : ∀ stage fabric, Course runs stage fabric (update stage fabric).2.1 (update stage fabric).2.2)
    (stage : Stage σ) (fabric : Fabric ω) :
    Course runs stage fabric (pollOnNews update stage fabric).2.1 (pollOnNews update stage fabric).2.2 := by
  unfold pollOnNews
  split
  next =>
    have silenced : Course runs stage fabric stage (fabric.silence stage.core.bell) := .work rfl rfl
    exact course_settle _ (silenced.append (updated stage _))
  next => exact .work rfl rfl

theorem course_pollOnTick {work : Hook ω σ (Except Failure Bool)}
    (worked : ∀ stage fabric, Course runs stage fabric (work stage fabric).2.1 (work stage fabric).2.2)
    (stage : Stage σ) (fabric : Fabric ω) :
    Course runs stage fabric (pollOnTick work stage fabric).2.1 (pollOnTick work stage fabric).2.2 := by
  unfold pollOnTick
  split
  next => exact course_settle _ (worked stage fabric)
  next => exact .work rfl rfl

/-- Surroundings with a record of the hooks that have been run in them. -/
structure Recorder (ω : Type) where
  surroundings : ω
  runs : List HookRun

/-- What runs in surroundings that keep a record: a stage, or a camera, that is otherwise as it is. -/
def Monitored (σ : Type) : Type := σ

def record (runs : List HookRun) (fabric : Fabric (Recorder ω)) : Fabric (Recorder ω) :=
  { fabric with surroundings := ⟨fabric.surroundings.surroundings, fabric.surroundings.runs ++ runs⟩ }

/-- A hook on starting that is recorded if it succeeds. -/
def recordStart (onStart : Hook (Recorder ω) σ (Except Failure Unit)) : Hook (Recorder ω) σ (Except Failure Unit) :=
  fun stage fabric =>
    let (result, stage, fabric) := onStart stage fabric
    (result, stage, record (HookRun.ofStart result) fabric)

def recordStop (onStop : Stage σ → Fabric (Recorder ω) → Stage σ × Fabric (Recorder ω)) (stage : Stage σ)
    (fabric : Fabric (Recorder ω)) : Stage σ × Fabric (Recorder ω) :=
  let (stage, fabric) := onStop stage fabric
  (stage, record [.ended] fabric)

end Stage

open Stage (HookRun Course Recorded Recorder Monitored Call)

namespace Source

variable {ω κ : Type}

/-- A camera that records when it is opened and when it is released. -/
instance [Camera ω κ] : Camera (Recorder ω) (Monitored κ) where
  name (camera : κ) := Camera.name ω camera
  description (camera : κ) := Camera.description ω camera
  properties (camera : κ) := Camera.properties ω camera
  openWith (camera : κ) bag recorder :=
    let (result, camera, surroundings) := Camera.openWith camera bag recorder.surroundings
    (result, camera, ⟨surroundings, recorder.runs ++ HookRun.ofStart result⟩)
  capture (camera : κ) recorder :=
    let (result, camera, surroundings) := Camera.capture camera recorder.surroundings
    (result, camera, ⟨surroundings, recorder.runs⟩)
  release (camera : κ) recorder :=
    let (camera, surroundings) := Camera.release camera recorder.surroundings
    (camera, ⟨surroundings, recorder.runs ++ [.ended]⟩)

/-- A source of any camera opens it and releases it in its hooks only. -/
theorem recorded [Camera ω κ] : Recorded (Source (Monitored κ)) (Recorder.runs (ω := ω)) where
  runs_onStart _ _ := rfl
  runs_onStop _ _ := rfl
  poll := by
    refine Stage.course_pollOnTick fun stage fabric => .work ?_ ?_
    · rw [tick_stage]
    · rcases tick_fabric stage fabric with quiet | ⟨feed, frame, -, accepted⟩
      · rw [quiet]
        rfl
      · rw [Fabric.surroundings_push accepted]
        rfl

variable {stage : Stage (Source SquareSource)}

theorem isOpen_capture (camera : SquareSource) (surroundings : ω) :
    (Camera.capture camera surroundings).2.1.isOpen = camera.isOpen := by
  cases opened : camera.draws with
  | none => simp only [Camera.capture, SquareSource.capture, SquareSource.isOpen, opened]
  | some draws =>
    simp only [Camera.capture, SquareSource.capture, SquareSource.isOpen, opened]
    rfl

theorem isOpen_openWith {bag : PropertyBag} {camera : SquareSource} (opened : SquareSource.openWith bag = .ok camera) :
    camera.isOpen = true := by
  unfold SquareSource.openWith at opened
  simp only at opened
  split at opened
  next => cases opened
  next =>
    cases opened
    rfl

theorem isOpen_start (held : stage.body.camera.isOpen = stage.isStarted) (fabric : Fabric ω) :
    (stage.start fabric).2.1.body.camera.isOpen = (stage.start fabric).2.1.isStarted := by
  unfold Stage.start
  split
  next => exact held
  next off =>
    cases opened : SquareSource.openWith stage.core.properties with
    | error error =>
      simp only [Behaviour.onStart, onStart, Camera.openWith, opened]
      exact held
    | ok camera =>
      simp only [Behaviour.onStart, onStart, Camera.openWith, opened]
      exact isOpen_openWith opened

theorem isOpen_stop (held : stage.body.camera.isOpen = stage.isStarted) (fabric : Fabric ω) :
    (stage.stop fabric).1.body.camera.isOpen = (stage.stop fabric).1.isStarted := by
  unfold Stage.stop Stage.stopBy
  split
  next => rfl
  next => exact held

theorem isOpen_poll (held : stage.body.camera.isOpen = stage.isStarted) (fabric : Fabric ω) :
    (Behaviour.poll stage fabric).2.1.body.camera.isOpen = (Behaviour.poll stage fabric).2.1.isStarted := by
  show (Stage.pollOnTick tick stage fabric).2.1.body.camera.isOpen = (Stage.pollOnTick tick stage fabric).2.1.isStarted
  unfold Stage.pollOnTick
  split
  next =>
    have same := tick_stage stage fabric
    generalize tick stage fabric = outcome at same
    obtain ⟨result, next, after⟩ := outcome
    cases same
    have kept := (isOpen_capture stage.body.camera fabric.surroundings).trans held
    cases result <;> exact kept
  next => exact held

theorem isOpen_perform (stage : Stage (Source SquareSource)) (fabric : Fabric ω) (call : Call ω)
    (held : stage.body.camera.isOpen = stage.isStarted) :
    (stage.perform fabric call).1.body.camera.isOpen = (stage.perform fabric call).1.isStarted := by
  cases call with
  | start => exact isOpen_start held fabric
  | stop => exact isOpen_stop held fabric
  | poll => exact isOpen_poll held fabric
  | aside change kept => exact held.trans (congrArg (· == Phase.started) (kept stage.core fabric)).symm

end Source

namespace BlobTracker

variable {ω : Type} {stage : Stage Body}

/-- A tracker that records its hooks. -/
instance : Behaviour (Recorder ω) (Monitored Body) :=
  behaviour (Stage.recordStart onStart) (Stage.recordStop onStop)

theorem core_track (mask : Raster.Image) (stage : Stage Body) (fabric : Fabric ω) :
    (track mask stage fabric).2.1.core = stage.core := by
  unfold track
  split
  next => rfl
  next synced sync =>
    have same := (syncParams_ok sync).1
    split <;> exact same

theorem surroundings_pushTo {core : Core} {port : Nat} {payload : Payload} {fabric after : Fabric ω}
    (pushed : pushTo core port payload fabric = .ok after) : after.surroundings = fabric.surroundings := by
  obtain ⟨feed, -, accepted⟩ := pushTo_ok pushed
  exact Fabric.surroundings_push accepted

theorem surroundings_publish (core : Core) (picture : Raster.Image) (touches : List Touch) (fabric : Fabric ω) :
    (publish core picture touches fabric).2.surroundings = fabric.surroundings := by
  unfold publish
  split
  next => rfl
  next between drawn =>
    have first := surroundings_pushTo drawn
    split
    next => exact first
    next after told => exact (surroundings_pushTo told).trans first

theorem surroundings_track (mask : Raster.Image) (stage : Stage Body) (fabric : Fabric ω) :
    (track mask stage fabric).2.2.surroundings = fabric.surroundings := by
  unfold track
  split
  next => rfl
  next =>
    split
    next => rfl
    next => exact surroundings_publish ..

/-- A mask in colour stops the stage, and any other leaves it on and runs no hook. -/
theorem course_update (stage : Stage (Monitored Body)) (fabric : Fabric (Recorder ω)) :
    Course Recorder.runs stage fabric (Behaviour.update stage fabric).2.1 (Behaviour.update stage fabric).2.2 := by
  show Course Recorder.runs stage fabric (updateBy (Stage.recordStop onStop) stage fabric).2.1
    (updateBy (Stage.recordStop onStop) stage fabric).2.2
  unfold updateBy
  split
  next => exact .work rfl rfl
  next mask shown =>
    split
    next =>
      exact .work (congrArg Core.phase (core_track mask stage fabric))
        (congrArg Recorder.runs (surroundings_track mask stage fabric))
    next => exact .stop stage fabric

theorem steady : Stage.Steady (Recorder ω) (Monitored Body) :=
  fun stage fabric => congrArg Core.phase (core_onStart stage fabric)

theorem runs_recordStart (stage : Stage Body) (fabric : Fabric (Recorder ω)) :
    (Stage.recordStart onStart stage fabric).2.2.surroundings.runs =
      fabric.surroundings.runs ++ HookRun.ofStart (onStart stage fabric).1 := by
  have kept := fabric_onStart stage fabric
  unfold Stage.recordStart
  generalize onStart stage fabric = outcome at kept
  obtain ⟨result, next, after⟩ := outcome
  cases kept
  rfl

theorem recorded : Recorded (Monitored Body) (Recorder.runs (ω := ω)) where
  runs_onStart := runs_recordStart
  runs_onStop _ _ := rfl
  poll := Stage.course_pollOnNews course_update

/-- A stage that is not started tracks nothing. -/
def Cleared (stage : Stage Body) : Prop := stage.isStarted = false → stage.body.tracked = []

theorem cleared_of_started (on : stage.isStarted = true) : Cleared stage :=
  fun off => nomatch on.symm.trans off

theorem Cleared.start (cleared : Cleared stage) (fabric : Fabric ω) : Cleared (stage.start fabric).2.1 := by
  unfold Stage.start
  split
  next => exact cleared
  next =>
    simp only [Behaviour.onStart, onStart]
    split
    next refused =>
      split at refused
      next => cases refused; exact cleared
      next => split at refused <;> cases refused; exact cleared
    next => exact cleared_of_started rfl

theorem Cleared.stop (cleared : Cleared stage) (fabric : Fabric ω) : Cleared (stage.stop fabric).1 := by
  unfold Stage.stop Stage.stopBy
  split
  next => exact fun _ => rfl
  next => exact cleared

theorem Cleared.update (cleared : Cleared stage) (on : stage.isStarted = true) (fabric : Fabric ω) :
    Cleared (update stage fabric).2.1 := by
  have step := updated stage fabric
  generalize BlobTracker.update stage fabric = outcome at step
  have still {next : Stage Body} (kept : next.core = stage.core) : Cleared next :=
    cleared_of_started (by rw [Stage.isStarted, kept]; exact on)
  cases step with
  | idle | misfit => exact cleared
  | colored =>
    rw [halt, if_pos on]
    exact fun _ => rfl
  | unseen mask _ _ synced sync => exact still (syncParams_ok sync).1
  | tracked mask _ _ synced sync => exact still (syncParams_ok sync).1

theorem Cleared.poll (cleared : Cleared stage) (fabric : Fabric ω) : Cleared (Behaviour.poll stage fabric).2.1 := by
  rw [poll_eq]
  split
  next both =>
    have updated := cleared.update (Bool.and_eq_true_iff.mp both).1 (fabric.silence stage.core.bell)
    generalize BlobTracker.update stage (fabric.silence stage.core.bell) = outcome at updated
    obtain ⟨result, next, after⟩ := outcome
    cases result <;> exact updated
  next => exact cleared

theorem cleared_perform (stage : Stage Body) (fabric : Fabric ω) (call : Call ω) (cleared : Cleared stage) :
    Cleared (stage.perform fabric call).1 := by
  cases call with
  | start => exact cleared.start fabric
  | stop => exact cleared.stop fabric
  | poll => exact cleared.poll fabric
  | aside change kept =>
    have same := congrArg (· == Phase.started) (kept stage.core fabric)
    exact fun off => cleared (same.symm.trans off)

end BlobTracker

namespace Stage

/-- The life of a stage of any kind, whose owner may start it, stop it, let it step and change it otherwise, in any
order. The hooks that are run with success take turns, the one on starting first, and the stage is started just while
that one was the last, by any record that the hooks keep of themselves; sources of any camera and trackers can be made
to keep one. A hook on starting that fails leaves the phase as it was, and its failure is the one handed back and
kept; a stage that is started refuses a start, and nothing at all changes. So the camera of squares of a source is open
just while its stage is started, and a tracker whose stage is not started tracks nothing. -/
theorem hooks_take_turns {ω σ : Type} [Behaviour ω σ] (steady : Steady ω σ) {stage : Stage σ}
    (new : stage.isStarted = false) (fabric : Fabric ω) (calls : List (Call ω)) :
    let final := stage.performAll fabric calls
    let again := final.1.start final.2
    (∀ runs : ω → List HookRun, Recorded σ runs → runs fabric.surroundings = [] →
      (∀ call ∈ calls, call.Spares runs) →
      let record := runs final.2.surroundings
      record.IsChain (· ≠ ·) ∧ record.head? ≠ some .ended ∧
        (final.1.isStarted = true ↔ record.getLast? = some .began)) ∧
    ((∀ (κ : Type) [Camera ω κ], Recorded (Source (Monitored κ)) (Recorder.runs (ω := ω))) ∧
      Recorded (Monitored BlobTracker.Body) (Recorder.runs (ω := ω))) ∧
    (∀ failure, final.1.isStarted = false → (Behaviour.onStart final.1 final.2).1 = .error failure →
      again.1 = .error failure ∧ again.2.1.core.phase = final.1.core.phase ∧
        again.2.1.core.lastFailure = some failure) ∧
    (final.1.isStarted = true → again = (.error (alreadyStarted final.1.id), final) ∧
      (alreadyStarted final.1.id).kind = .invalidState) ∧
    (∀ settings, let made := Source.make (SquareSource.ofSettings settings) fabric
      let final := (made.1.performAll made.2 calls).1
      final.body.camera.isOpen = final.isStarted) ∧
    (let made := BlobTracker.make fabric
      let final := (made.1.performAll made.2 calls).1
      final.isStarted = false → final.body.tracked = []) := by
  intro final again
  refine ⟨fun runs recorded empty spares => ?_, ⟨fun κ _ => Source.recorded, BlobTracker.recorded⟩,
    fun failure off failed => ?_, fun on => ⟨?_, rfl⟩, fun settings => ?_, ?_⟩
  · have initial : InTurn runs stage fabric := by
      rw [InTurn, empty, new]
      exact paired_nil
    have paired := initial.performAll steady recorded spares
    exact ⟨paired.alternating, paired.first, paired.last.symm⟩
  · exact start_of_failure (steady final.1 final.2) off failed
  · exact start_of_started on final.2
  · refine performAll_invariant Source.isOpen_perform ?_ _ calls
    rfl
  · refine performAll_invariant BlobTracker.cleared_perform ?_ _ calls
    exact fun _ => rfl

variable {ω : Type}

def joined : Call ω := .aside
  (fun core fabric => match core.setInput (some ⟨0⟩) 0 fabric with
    | .ok outcome => outcome
    | .error _ => (core, fabric))
  (by
    intro core fabric
    split
    next outcome connected =>
      obtain ⟨-, -, same, -⟩ := Core.setInput_ok connected
      rw [same]
    next => rfl)

def shown (picture : Raster.Image) : Call ω := .aside
  (fun core fabric => match fabric.push ⟨0⟩ (.image picture) with
    | .ok after => (core, after)
    | .error _ => (core, fabric))
  (by
    intro core fabric
    split <;> rfl)

theorem surroundings_setInput {core next : Core} {feed : Option FeedId} {port : Nat} {fabric after : Fabric ω}
    (connected : core.setInput feed port fabric = .ok (next, after)) : after.surroundings = fabric.surroundings := by
  obtain ⟨-, -, -, same⟩ := Core.setInput_ok connected
  have left : (core.leave (core.input? port) fabric).surroundings = fabric.surroundings := by
    unfold Core.leave
    split <;> rfl
  rw [same, ← left]
  unfold Core.join
  split
  next => rfl
  next =>
    simp only
    split <;> rfl

theorem spares_joined (runs : ω → List HookRun) : joined.Spares runs := by
  intro core fabric
  show runs (match core.setInput (some ⟨0⟩) 0 fabric with
    | .ok outcome => outcome
    | .error _ => (core, fabric)).2.surroundings = _
  split
  next outcome connected => exact congrArg runs (surroundings_setInput connected)
  next => rfl

theorem spares_shown (runs : ω → List HookRun) (picture : Raster.Image) : (shown picture).Spares runs := by
  intro core fabric
  show runs (match fabric.push ⟨0⟩ (.image picture) with
    | .ok after => (core, after)
    | .error _ => (core, fabric)).2.surroundings = _
  split
  next accepted => exact congrArg runs (Fabric.surroundings_push accepted)
  next => rfl

/-- A tracker is started too early and then in time, stops at a picture in colour, and is started twice. -/
def flashed : List (Call ω) :=
  [.start, joined, .start, shown (.blank 4 4 1), .poll, shown (.blank 4 4 3), .poll, .poll, .start, .start]

/-- A new tracker that keeps a record, on a feed of masks. -/
def watched : Stage (Monitored BlobTracker.Body) × Fabric (Recorder Unit) :=
  BlobTracker.make ((Fabric.empty ⟨(), []⟩).addFeed "masks" .image).2

theorem hooks_take_turns_flashed :
    let final := watched.1.performAll watched.2 flashed
    let record := final.2.surroundings.runs
    Steady (Recorder Unit) (Monitored BlobTracker.Body) ∧ watched.1.isStarted = false ∧
      Recorded (Monitored BlobTracker.Body) (Recorder.runs (ω := Unit)) ∧ watched.2.surroundings.runs = [] ∧
      (∀ call ∈ flashed, call.Spares (Recorder.runs (ω := Unit))) ∧ record = [.began, .ended, .began] ∧
      record.IsChain (· ≠ ·) ∧ final.1.isStarted = true ∧
      final.1.start final.2 = (.error (alreadyStarted final.1.id), final) := by
  intro final record
  have new : watched.1.isStarted = false := by decide +kernel
  have empty : watched.2.surroundings.runs = [] := by decide +kernel
  have known : record = [.began, .ended, .began] := by decide +kernel
  have spares : ∀ call ∈ flashed, call.Spares (Recorder.runs (ω := Unit)) := by
    simp only [flashed, List.forall_mem_cons]
    exact ⟨trivial, spares_joined _, trivial, spares_shown _ _, trivial, spares_shown _ _, trivial, trivial, trivial,
      trivial, nofun⟩
  obtain ⟨turns, -, -, refuses, -⟩ := hooks_take_turns BlobTracker.steady new watched.2 flashed
  obtain ⟨alternate, -, last⟩ := turns Recorder.runs BlobTracker.recorded empty spares
  have on : final.1.isStarted = true := last.mpr (congrArg List.getLast? known)
  exact ⟨BlobTracker.steady, new, BlobTracker.recorded, empty, spares, known, alternate, on, (refuses on).1⟩

end Stage

end TouchTracking
