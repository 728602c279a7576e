import TouchTracking.Proofs.Building
import TouchTracking.Proofs.Footage
import TouchTracking.Proofs.Ticks

/-! The pipeline of loaded settings at work. Once it is started nothing is left that could fail: the camera is open
and gives a mask with pixels on every tick, the feeds take what is published, and the tracker, whose parameters are
those in its properties, always has a mask to look at. So every tick is a step of the source and then a step of the
tracker. -/
namespace TouchTracking

open Raster (Image)

variable {ω : Type}

namespace SquareSource

variable {settings : SquareSettings} {source : SquareSource}

structure Filming (settings : SquareSettings) (source : SquareSource) : Prop where
  settings : source.settings = settings
  isOpen : source.isOpen = true

theorem filming_begin (settings : SquareSettings) (draws : Random.Draws) : Filming settings (begin settings draws) :=
  ⟨rfl, rfl⟩

theorem Filming.capture (filming : Filming settings source) :
    ∃ image next, source.capture = .ok (image, next) ∧ image.Frames settings ∧ Filming settings next := by
  obtain ⟨draws, opened⟩ := Option.isSome_iff_exists.mp filming.isOpen
  have same : (source.advance draws).settings = settings := filming.settings
  refine ⟨Square.render (source.advance draws).settings (source.advance draws).squares, source.advance draws, ?_, ?_,
    same, rfl⟩
  · rw [SquareSource.capture, opened]
  · rw [same]
    exact Square.frames_render ..

end SquareSource

theorem Source.tick_of_filming {settings : SquareSettings} (stage : Stage (Source SquareSource)) {fabric : Fabric ω}
    {frames : FeedId} (filming : stage.body.camera.Filming settings) (output : stage.core.output? 0 = some frames)
    (format : fabric.format? frames = some .image) :
    ∃ image camera after, Source.tick stage fabric = (.ok true, { stage with body := ⟨camera⟩ }, after) ∧
      image.Frames settings ∧ camera.Filming settings ∧ fabric.push frames (.image image) = .ok after := by
  obtain ⟨image, camera, captured, framed, next⟩ := filming.capture
  obtain ⟨after, accepted⟩ := Fabric.push_of_format (.image image) format
  refine ⟨image, camera, after, ?_, framed, next, accepted⟩
  simp only [Source.tick, Camera.capture, captured, Source.publish, output, accepted]
  rfl

/-- A mask with pixels can be processed, and leaves the parameters alone. -/
theorem Tracker.process_of_frames {settings : SquareSettings} (valid : settings.validate = .ok ()) {image : Image}
    (framed : image.Frames settings) (tracker : Tracker) :
    ∃ touches next, tracker.process image = .ok (touches, next) ∧ next.params = tracker.params := by
  obtain ⟨⟨wide, high⟩, -⟩ := SquareSettings.validate_ok valid
  have filled : ¬ (image.width = 0 ∨ image.height = 0) := by
    rw [framed.width, framed.height]
    omega
  simp only [process, if_neg filled, Raster.Mask.ofImage, dif_pos framed.channels]
  exact ⟨_, _, rfl, rfl⟩

namespace BlobTracker

/-- With a mask to look at, and parameters that are in force, an update publishes a picture and then touches. -/
theorem update_of_frames {settings : SquareSettings} (valid : settings.validate = .ok ()) {image : Image}
    (framed : image.Frames settings) (stage : Stage Body) {fabric : Fabric ω} {drawn told : FeedId}
    (shown : stage.core.payload? 0 fabric = some (.image image))
    (same : paramsOf stage.core = stage.body.params)
    (picture : stage.core.output? 0 = some drawn) (touches : stage.core.output? 1 = some told)
    (drawnFormat : fabric.format? drawn = some .image) (toldFormat : fabric.format? told = some .touch) :
    ∃ body middle after annotated listed, update stage fabric = (.ok (), { stage with body }, after) ∧
      body.params = stage.body.params ∧ fabric.push drawn (.image annotated) = .ok middle ∧
      middle.push told (.touches listed) = .ok after := by
  obtain ⟨listed, tracker, processed, kept⟩ := stage.body.process_of_frames valid framed
  obtain ⟨annotated, outlined⟩ : ∃ annotated, tracker.drawn (canvasFor image stage.body.canvas) = annotated := ⟨_, rfl⟩
  obtain ⟨middle, first, drawn_⟩ := pushTo_of_format (.image annotated.image) picture drawnFormat
  have toldFormat : middle.format? told = some .touch := (Fabric.format?_push drawn_ told).trans toldFormat
  obtain ⟨after, second, told_⟩ := pushTo_of_format (.touches listed) touches toldFormat
  refine ⟨⟨tracker, some annotated⟩, middle, after, _, listed, ?_, kept, drawn_, told_⟩
  simp only [update, updateBy, mask?, shown, Option.bind_some, Payload.image?, if_pos framed.channels, track,
    syncParams_of_eq same, processed, outlined, publish, first, second]

end BlobTracker

/-- Ticks at the given times, one after the other, with the count of busy stages in each. -/
def Pipeline.polls {σ : Type} [Behaviour ω σ] : (times : List Nat) → Pipeline σ → Fabric ω →
    List Nat × Pipeline σ × Fabric ω
  | [], pipeline, fabric => ([], pipeline, fabric)
  | clock :: times, pipeline, fabric =>
    let (busy, pipeline, fabric) := pipeline.poll { fabric with clock }
    let (rest, pipeline, fabric) := polls times pipeline fabric
    (busy :: rest, pipeline, fabric)

/-- A core of the same ports, properties and failure. -/
structure Core.Equipped (core next : Core) : Prop where
  alike : Alike core next
  properties : next.properties = core.properties
  lastFailure : next.lastFailure = core.lastFailure

namespace Config.Settings

variable {settings : Settings} {source tracker source' tracker' : Stage Builtin} {frames drawn told : FeedId}
  {fabric after : Fabric ω} {count : Nat}

theorem Linked.congr (linked : Linked settings source tracker frames drawn told fabric)
    (sameSource : source.core.Equipped source'.core) (sameTracker : tracker.core.Equipped tracker'.core)
    (orderly : Orderly [source', tracker'] after) (formats : ∀ id, after.format? id = fabric.format? id) :
    Linked settings source' tracker' frames drawn told after where
  orderly := orderly
  sourceNamed := by
    rw [Stage.id, Core.id, sameSource.properties]
    exact linked.sourceNamed
  trackerNamed := by
    rw [Stage.id, Core.id, sameTracker.properties]
    exact linked.trackerNamed
  sourceFine := sameSource.lastFailure.trans linked.sourceFine
  trackerFine := sameTracker.lastFailure.trans linked.trackerFine
  squares := by
    rw [sameSource.properties]
    exact linked.squares
  params := by
    rw [BlobTracker.paramsOf, sameTracker.properties]
    exact linked.params
  output := by
    rw [Core.output?, sameSource.alike.outputs]
    exact linked.output
  input := (sameTracker.alike.input? 0).trans linked.input
  picture := by
    rw [Core.output?, sameTracker.alike.outputs]
    exact linked.picture
  touches := by
    rw [Core.output?, sameTracker.alike.outputs]
    exact linked.touches
  apart := linked.apart
  framesFormat := (formats frames).trans linked.framesFormat
  drawnFormat := (formats drawn).trans linked.drawnFormat
  toldFormat := (formats told).trans linked.toldFormat

/-- A source and a tracker at work under the given settings, after some ticks. -/
structure Running (settings : Settings) (source tracker : Stage Builtin) (frames drawn told : FeedId) (count : Nat)
    (fabric : Fabric ω) : Prop where
  linked : Linked settings source tracker frames drawn told fabric
  sourceStarted : source.isStarted = true
  trackerStarted : tracker.isStarted = true
  camera : ∃ camera, source.body = .inl ⟨camera⟩ ∧ camera.Filming settings.squares
  body : ∃ body, tracker.body = .inr body ∧ body.params = settings.tracker
  counted : fabric.sequence told = count

/-- The source publishes a frame in its turn. -/
theorem Running.turn_source (running : Running settings source tracker frames drawn told count fabric) :
    ∃ image camera stats after,
      Pipeline.turn source fabric = (true, ⟨{ source.core with stats }, .inl ⟨camera⟩⟩, after) ∧
      image.Frames settings.squares ∧ camera.Filming settings.squares ∧
      fabric.push frames (.image image) = .ok after := by
  obtain ⟨camera, kind, filming⟩ := running.camera
  have linked := running.linked
  have turned := Pipeline.turn_of_source kind (linked.orderly.fits source List.mem_cons_self) running.sourceStarted
  obtain ⟨image, next, after, ticked, framed, filming, accepted⟩ :=
    Source.tick_of_filming ⟨source.core, ⟨camera⟩⟩ filming linked.output linked.framesFormat
  rw [ticked] at turned
  exact ⟨image, next, _, after, turned, framed, filming, accepted⟩

/-- The frame reaches the tracker, which publishes a picture and touches in its turn. -/
theorem Running.turn_tracker (running : Running settings source tracker frames drawn told count fabric)
    (valid : settings.squares.validate = .ok ()) {image : Image} (framed : image.Frames settings.squares)
    (accepted : fabric.push frames (.image image) = .ok after) :
    ∃ body stats annotated listed between final,
      Pipeline.turn tracker after = (true, ⟨{ tracker.core with stats }, .inr body⟩, final) ∧
      body.params = settings.tracker ∧
      (Pipeline.hushed tracker after).push drawn (.image annotated) = .ok between ∧
      between.push told (.touches listed) = .ok final := by
  obtain ⟨body, kind, params⟩ := running.body
  have linked := running.linked
  have present := Fabric.hasFeed_of_format linked.framesFormat
  have fits := linked.orderly.fits tracker (List.mem_cons_of_mem _ List.mem_cons_self)
  -- The input is connected to the feed that was pushed on, so the bell is registered there.
  have ringing : after.isRinging tracker.core.bell = true := by
    have fed : Fabric.Fed [frames] [] fabric after := Fabric.fed_push accepted
    refine (fits.attentive.isRinging_fed fed List.not_mem_nil).mpr (.inr ⟨frames, linked.input, ?_⟩)
    exact (Fabric.lt_sequence_push accepted frames).mpr ⟨rfl, present⟩
  have shown : tracker.core.payload? 0 (Pipeline.hushed tracker after) = some (.image image) := by
    obtain ⟨content, found⟩ := Option.isSome_iff_exists.mp present
    rw [Core.payload?_eq_bind, linked.input, Option.bind_some, Fabric.slot?, Pipeline.content?_hushed,
      Fabric.content?_push accepted, if_pos rfl, found]
    rfl
  have formats (id : FeedId) : (Pipeline.hushed tracker after).format? id = fabric.format? id :=
    Fabric.format?_push accepted id
  obtain ⟨next, between, final, annotated, listed, updated, kept, drawn_, told_⟩ :=
    BlobTracker.update_of_frames valid framed ⟨tracker.core, body⟩ shown (linked.params.trans params.symm)
      linked.picture linked.touches ((formats drawn).trans linked.drawnFormat)
      ((formats told).trans linked.toldFormat)
  have turned := Pipeline.turn_of_news kind running.trackerStarted ringing
  rw [updated] at turned
  exact ⟨next, _, annotated, listed, between, final, turned, kept.trans params, drawn_, told_⟩

/-- One tick: both stages have work, neither fails, and one more list of touches is published. -/
theorem Running.step (running : Running settings source tracker frames drawn told count fabric)
    (valid : settings.squares.validate = .ok ()) :
    ∃ source' tracker' after, Pipeline.turns [source, tracker] fabric = (2, [source', tracker'], after) ∧
      Running settings source' tracker' frames drawn told (count + 1) after := by
  have linked := running.linked
  obtain ⟨image, camera, stats, middle, turned, framed, filming, accepted⟩ := running.turn_source
  obtain ⟨body, stats', annotated, listed, between, final, turned', params, drawn_, told_⟩ :=
    running.turn_tracker valid framed accepted
  have formats (id : FeedId) : final.format? id = fabric.format? id := by
    rw [Fabric.format?_push told_, Fabric.format?_push drawn_]
    exact Fabric.format?_push accepted id
  let source' : Stage Builtin := ⟨{ source.core with stats }, .inl ⟨camera⟩⟩
  let tracker' : Stage Builtin := ⟨{ tracker.core with stats := stats' }, .inr body⟩
  have first := Builtin.handled_turn fabric source
  have second := Builtin.handled_turn middle tracker
  rw [turned] at first
  rw [turned'] at second
  have orderly : Orderly [source', tracker'] final := linked.orderly.pair first second
  -- Of the three pushes in a tick only the last is on the feed of touches.
  have counted : final.sequence told = count + 1 := by
    have present : between.hasFeed told = true := by
      have format : between.format? told = some .touch :=
        (Fabric.format?_push drawn_ told).trans ((Fabric.format?_push accepted told).trans linked.toldFormat)
      exact Fabric.hasFeed_of_format format
    have before : middle.sequence told = count := by
      rw [Fabric.sequence_push accepted, if_neg fun both => linked.apart.1 both.1, running.counted]
    have hushed : (Pipeline.hushed tracker middle).sequence told = middle.sequence told := rfl
    rw [Fabric.sequence_push told_, if_pos ⟨rfl, present⟩, Fabric.sequence_push drawn_,
      if_neg fun both => linked.apart.2 both.1, hushed, before]
  refine ⟨source', tracker', final, ?_, ?_, running.sourceStarted, running.trackerStarted, ⟨camera, rfl, filming⟩,
    ⟨body, rfl, params⟩, counted⟩
  · simp only [Pipeline.turns, turned, turned']
    rfl
  · exact linked.congr ⟨⟨rfl, rfl, rfl⟩, rfl, rfl⟩ ⟨⟨rfl, rfl, rfl⟩, rfl, rfl⟩ orderly formats

theorem start_source (fabric : Fabric ω) {camera : SquareSource} (kind : source.body = .inl ⟨camera⟩)
    (idle : source.isStarted = false)
    (carried : SquareSettings.ofProperties source.core.properties = settings.squares)
    (valid : settings.squares.validate = .ok ()) :
    ∃ camera, source.start fabric = (.ok (), ⟨{ source.core with phase := .started }, .inl ⟨camera⟩⟩, fabric) ∧
      camera.Filming settings.squares := by
  obtain ⟨core, body⟩ := source
  cases kind
  refine ⟨SquareSource.begin settings.squares (.ofSeed settings.squares.seed), ?_, SquareSource.filming_begin ..⟩
  rw [Stage.start, if_neg (Bool.eq_false_iff.mp idle)]
  have opened : SquareSource.openWith core.properties =
      .ok (SquareSource.begin settings.squares (.ofSeed settings.squares.seed)) := by
    rw [SquareSource.openWith, carried]
    simp only [valid]
  simp only [Behaviour.onStart, Hook.widen, Source.onStart, Camera.openWith, opened]
  rfl

theorem start_tracker (fabric : Fabric ω) {body : BlobTracker.Body} (kind : tracker.body = .inr body)
    (idle : tracker.isStarted = false) (connected : tracker.core.input? 0 = some frames)
    (carried : BlobTracker.paramsOf tracker.core = settings.tracker)
    (valid : settings.tracker.validate = .ok ()) :
    ∃ body, tracker.start fabric = (.ok (), ⟨{ tracker.core with phase := .started }, .inr body⟩, fabric) ∧
      body.params = settings.tracker := by
  obtain ⟨core, _⟩ := tracker
  cases kind
  obtain ⟨next, synced, params⟩ := BlobTracker.syncParams_of_valid ⟨core, body⟩ (carried.symm ▸ valid)
  have connected : core.input? 0 = some frames := connected
  refine ⟨(BlobTracker.setUp ⟨core, next⟩ fabric).body, ?_, params.trans carried⟩
  rw [Stage.start, if_neg (Bool.eq_false_iff.mp idle)]
  simp only [Behaviour.onStart, Hook.widen, BlobTracker.onStart, connected, synced]
  rfl

theorem running_of_start (linked : Linked settings source tracker frames drawn told fabric) {camera : SquareSource}
    {body : BlobTracker.Body} (sourceKind : source.body = .inl ⟨camera⟩) (sourceIdle : source.isStarted = false)
    (trackerKind : tracker.body = .inr body) (trackerIdle : tracker.isStarted = false) (sound : settings.Sound)
    (unused : fabric.sequence told = 0) :
    ∃ source' tracker' after,
      (⟨[source, tracker], false⟩ : Pipeline Builtin).start fabric = (⟨[source', tracker'], true⟩, after) ∧
      Running settings source' tracker' frames drawn told 0 after := by
  obtain ⟨camera, started, filming⟩ := start_source fabric sourceKind sourceIdle linked.squares sound.validSquares
  obtain ⟨body, started', params⟩ :=
    start_tracker fabric trackerKind trackerIdle linked.input linked.params sound.validTracker
  let source' : Stage Builtin := ⟨{ source.core with phase := .started }, .inl ⟨camera⟩⟩
  let tracker' : Stage Builtin := ⟨{ tracker.core with phase := .started }, .inr body⟩
  have first := Builtin.handled_start fabric source
  have second := Builtin.handled_start fabric tracker
  rw [started] at first
  rw [started'] at second
  have orderly : Orderly [source', tracker'] fabric := linked.orderly.pair first second
  refine ⟨source', tracker', fabric, ?_, ?_, rfl, rfl, ⟨camera, rfl, filming⟩, ⟨body, rfl, params⟩, unused⟩
  · simp only [Pipeline.start, Pipeline.forStages, sourceIdle, trackerIdle, Bool.false_eq_true, if_false, started,
      started', source', tracker']
  · exact linked.congr ⟨⟨rfl, rfl, rfl⟩, rfl, rfl⟩ ⟨⟨rfl, rfl, rfl⟩, rfl, rfl⟩ orderly fun _ => rfl

/-- The time matters to nothing but the records of how long things took. -/
theorem Running.at_time (running : Running settings source tracker frames drawn told count fabric) (clock : Nat) :
    Running settings source tracker frames drawn told count { fabric with clock } :=
  have orderly : Orderly [source, tracker] { fabric with clock } :=
    running.linked.orderly.spared fun _ => ⟨rfl, fun _ => id, fun _ => rfl, .inl⟩
  { running with
    linked := running.linked.congr ⟨.refl _, rfl, rfl⟩ ⟨.refl _, rfl, rfl⟩ orderly fun _ => rfl
    counted := running.counted }

/-- Ticks as many as one likes, whenever they come. -/
theorem Running.polls (running : Running settings source tracker frames drawn told count fabric)
    (valid : settings.squares.validate = .ok ()) (times : List Nat) :
    ∃ source' tracker' after,
      (⟨[source, tracker], true⟩ : Pipeline Builtin).polls times fabric =
        (times.map fun _ => 2, ⟨[source', tracker'], true⟩, after) ∧
      Running settings source' tracker' frames drawn told (count + times.length) after := by
  induction times generalizing source tracker fabric count with
  | nil => exact ⟨source, tracker, fabric, rfl, running⟩
  | cons clock times ih =>
    obtain ⟨source', tracker', after, ticked, next⟩ := (running.at_time clock).step valid
    obtain ⟨source'', tracker'', final, rest, last⟩ := ih next
    refine ⟨source'', tracker'', final, ?_, ?_⟩
    · simp only [Pipeline.polls, Pipeline.poll, ticked, rest, List.map_cons]
    · rw [List.length_cons, Nat.add_comm times.length, ← Nat.add_assoc]
      exact last

/-- A source and a tracker are started, and just the given settings are in force in them. -/
def InForce (settings : Settings) (pipeline : Pipeline Builtin) : Prop :=
  ∃ source tracker camera body, pipeline.stages = [source, tracker] ∧
    source.id = sourceId ∧ source.isStarted = true ∧ source.body = .inl ⟨camera⟩ ∧ camera.isOpen = true ∧
    camera.settings = settings.squares ∧
    tracker.id = trackerId ∧ tracker.isStarted = true ∧ tracker.body = .inr body ∧ body.params = settings.tracker

def touches? (pipeline : Pipeline Builtin) (fabric : Fabric ω) : Option (Feed BellId) :=
  ((pipeline.stage? trackerId).bind (·.core.output? 1)).bind fabric.feed?

theorem Running.inForce (running : Running settings source tracker frames drawn told count fabric) (on : Bool) :
    InForce settings ⟨[source, tracker], on⟩ := by
  obtain ⟨camera, kind, filming⟩ := running.camera
  obtain ⟨body, kind', params⟩ := running.body
  exact ⟨source, tracker, camera, body, rfl, running.linked.sourceNamed, running.sourceStarted, kind, filming.isOpen,
    filming.settings, running.linked.trackerNamed, running.trackerStarted, kind', params⟩

theorem Running.failures (running : Running settings source tracker frames drawn told count fabric) (on : Bool) :
    (⟨[source, tracker], on⟩ : Pipeline Builtin).failures = [] := by
  simp [Pipeline.failures, running.linked.sourceFine, running.linked.trackerFine]

theorem Running.touches? (running : Running settings source tracker frames drawn told count fabric) (on : Bool) :
    (Settings.touches? ⟨[source, tracker], on⟩ fabric).map Feed.sequence = some count := by
  have linked := running.linked
  have apart : (sourceId == trackerId) = false := by decide
  have found : (⟨[source, tracker], on⟩ : Pipeline Builtin).stage? trackerId = some tracker := by
    rw [Pipeline.stage?, List.find?_cons, linked.sourceNamed, apart, List.find?_cons, linked.trackerNamed,
      beq_self_eq_true]
  obtain ⟨feed, there, -⟩ := Option.map_eq_some_iff.mp linked.toldFormat
  have counted := running.counted
  rw [Fabric.sequence, Fabric.content?, there] at counted
  rw [Settings.touches?, found, Option.bind_some, linked.touches, Option.bind_some, there, Option.map_some]
  exact congrArg some counted

/-- Settings that can be loaded and built always run. Once the pipeline is started, both stages are, with just the
loaded settings in force; and however often it ticks then, both stages have work in every tick, no stage fails, and
each tick publishes one list of touches. -/
theorem built_pipeline_runs {file : Option ConfigFile} {environment : Environment} {pipeline : Pipeline Builtin}
    {built : Fabric ω} (closed : fabric.Closed) (loaded : load file environment = .ok settings)
    (done : settings.build Builtin.factory fabric = .ok (pipeline, built)) :
    let started := pipeline.start built
    InForce settings started.1 ∧ started.1.failures = [] ∧
    ∀ times : List Nat,
      let ticked := started.1.polls times started.2
      ticked.1 = (times.map fun _ => 2) ∧ InForce settings ticked.2.1 ∧ ticked.2.1.failures = [] ∧
      (touches? ticked.2.1 ticked.2.2).map Feed.sequence = some times.length := by
  have sound := sound_of_load loaded
  obtain ⟨source, tracker, frames, drawn, told, rfl, sourceKind, sourceIdle, trackerKind, trackerIdle, linked,
    unused⟩ := build_ok closed sound done
  obtain ⟨source', tracker', after, started, running⟩ :=
    running_of_start linked sourceKind sourceIdle trackerKind trackerIdle sound unused
  simp only [started]
  refine ⟨running.inForce true, running.failures true, fun times => ?_⟩
  obtain ⟨source'', tracker'', final, ticked, last⟩ := running.polls sound.validSquares times
  simp only [ticked]
  rw [Nat.zero_add] at last
  exact ⟨trivial, last.inForce true, last.failures true, last.touches? true⟩

/-- A small frame, and the greatest seed that a property takes. -/
def smallFile : ConfigFile :=
  ⟨"touchd.json",
    .ok "\x7b\"source\": \x7b\"width\": 8, \"height\": 6, \"size\": 4, \"seed\": 9223372036854775807\x7d\x7d".toUTF8⟩

def smallEnvironment : Environment := fun name => if name = minSizeVariable then some " 3 " else none

def small : Settings := ⟨standardDelay, standardKind, ⟨8, 6, 3, 4, 3, 9223372036854775807⟩, ⟨3, 25, 2, 3⟩⟩

theorem built_pipeline_runs_small :
    (Fabric.empty () : Fabric Unit).Closed ∧ load (some smallFile) smallEnvironment = .ok small ∧
    ∃ pipeline built, small.build Builtin.factory (Fabric.empty ()) = .ok (pipeline, built) ∧
      (let started := pipeline.start built
       let ticked := started.1.polls [5, 11, 12] started.2
       InForce small started.1 ∧ ticked.1 = [2, 2, 2] ∧ ticked.2.1.failures = [] ∧
        (touches? ticked.2.1 ticked.2.2).map Feed.sequence = some 3) := by
  have closed : (Fabric.empty () : Fabric Unit).Closed := by decide
  have loaded : load (some smallFile) smallEnvironment = .ok small := eq_ok_of_toOption (by decide +kernel)
  have buildable : (small.build Builtin.factory (Fabric.empty ())).toOption.isSome = true := by decide +kernel
  obtain ⟨⟨pipeline, built⟩, made⟩ := Option.isSome_iff_exists.mp buildable
  have made := eq_ok_of_toOption made
  obtain ⟨inForce, -, runs⟩ := built_pipeline_runs closed loaded made
  obtain ⟨counts, -, fine, counted⟩ := runs [5, 11, 12]
  exact ⟨closed, loaded, pipeline, built, made, inForce, counts, fine, counted⟩

end Config.Settings

end TouchTracking
