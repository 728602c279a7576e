import TouchTracking.Pipeline.Basic
import TouchTracking.Proofs.Attention

/-! What is done to one stage, as it concerns that stage and all the others. Whatever it is, the bell of the stage
goes on being registered just where its input is connected, and of the other stages nothing changes but that bells
may ring that are registered somewhere. -/
namespace TouchTracking

open Wiring (Attentive)

namespace Fabric

variable {ω : Type}

/-- A change that leaves a bell where it is registered, and rings it only if it is registered somewhere. -/
structure Spares (bell : BellId) (fabric next : Fabric ω) : Prop where
  hasBell : next.hasBell bell = fabric.hasBell bell
  hasFeed : ∀ id, fabric.hasFeed id = true → next.hasFeed id = true
  registrations : ∀ id, next.registrations bell id = fabric.registrations bell id
  rung : next.isRinging bell = true →
    fabric.isRinging bell = true ∨ ∃ id, 0 < fabric.registrations bell id

namespace Spares

variable {bell : BellId} {fabric middle next : Fabric ω}

theorem refl (fabric : Fabric ω) : Spares bell fabric fabric := ⟨rfl, fun _ => id, fun _ => rfl, .inl⟩

theorem trans (first : Spares bell fabric middle) (second : Spares bell middle next) :
    Spares bell fabric next where
  hasBell := second.hasBell.trans first.hasBell
  hasFeed id present := second.hasFeed id (first.hasFeed id present)
  registrations id := (second.registrations id).trans (first.registrations id)
  rung ringing := by
    rcases second.rung ringing with before | ⟨id, registered⟩
    · exact first.rung before
    · exact .inr ⟨id, first.registrations id ▸ registered⟩

end Spares

/-- A change of the given feeds and of no other that was there. -/
structure Confined (feeds : List FeedId) (fabric next : Fabric ω) : Prop where
  contents : ∀ id, id ∉ feeds → fabric.hasFeed id = true → next.content? id = fabric.content? id
  formats : ∀ id, id ∉ feeds → fabric.hasFeed id = true → next.format? id = fabric.format? id

theorem Confined.refl {feeds : List FeedId} (fabric : Fabric ω) : Confined feeds fabric fabric :=
  ⟨fun _ _ _ => rfl, fun _ _ _ => rfl⟩

theorem Confined.trans {feeds : List FeedId} {fabric middle next : Fabric ω} (first : Confined feeds fabric middle)
    (second : Confined feeds middle next) : Confined feeds fabric next := by
  have still (id : FeedId) (outside : id ∉ feeds) (present : fabric.hasFeed id = true) : middle.hasFeed id = true := by
    rwa [hasFeed, first.contents id outside present]
  constructor
  · intro id outside present
    exact (second.contents id outside (still id outside present)).trans (first.contents id outside present)
  · intro id outside present
    exact (second.formats id outside (still id outside present)).trans (first.formats id outside present)

theorem confined_of_feeds {fabric next : Fabric ω}
    (same : ∀ id, fabric.hasFeed id = true → next.feed? id = fabric.feed? id) (feeds : List FeedId) :
    Confined feeds fabric next where
  contents id _ present := by rw [content?, same id present, content?]
  formats id _ present := by rw [format?, same id present, format?]

theorem Fed.confined {feeds : List FeedId} {bells : List BellId} {fabric next : Fabric ω}
    (fed : Fed feeds bells fabric next) : Confined feeds fabric next :=
  ⟨fun _ outside _ => fed.content?_elsewhere outside, fun id _ _ => fed.formats id⟩

theorem Fed.spares {feeds : List FeedId} {bells : List BellId} {fabric next : Fabric ω}
    (fed : Fed feeds bells fabric next) {bell : BellId} (apart : bell ∉ bells) :
    Spares bell fabric next where
  hasBell := fed.hasBell bell
  hasFeed id present := fed.hasFeed id ▸ present
  registrations := fed.registrations bell
  rung ringing := ((fed.rung bell apart).mp ringing).imp id fun ⟨_, id, registered, _⟩ => ⟨id, registered⟩

variable (fabric : Fabric ω) (feed : FeedId) {bell other : BellId}

/-- A change of one feed that leaves its payload alone and is no change of who else is registered. -/
theorem spares_modifyFeed {change : Feed BellId → Feed BellId}
    (held : ∀ id, (fabric.modifyFeed feed change).content? id = fabric.content? id)
    (counted : ∀ feed, (change feed).observers.count other = feed.observers.count other) :
    Spares other fabric (fabric.modifyFeed feed change) where
  hasBell := rfl
  hasFeed id present := by rwa [hasFeed, held, ← hasFeed]
  registrations id := by
    rw [registrations, feed?_modifyFeed, registrations]
    by_cases same : id = feed
    · rw [if_pos same]
      cases fabric.feed? id with
      | none => rfl
      | some target => exact counted target
    · rw [if_neg same]
  rung := .inl

theorem spares_subscribe (apart : other ≠ bell) : Spares other fabric (fabric.subscribe feed bell) := by
  refine spares_modifyFeed fabric feed (content?_subscribe fabric feed bell) fun target => ?_
  unfold Feed.subscribe
  split
  · rfl
  · simp [Ne.symm apart]

theorem spares_unsubscribe (apart : other ≠ bell) :
    Spares other fabric (fabric.unsubscribe feed bell) := by
  refine spares_modifyFeed fabric feed (content?_unsubscribe fabric feed bell) fun target => ?_
  exact List.count_filter (by simp [apart])

end Fabric

namespace Wiring

open Fabric (Spares)

variable {ω : Type}

theorem spares_leave (core : Core) (feed : Option FeedId) (fabric : Fabric ω) {bell : BellId}
    (apart : bell ≠ core.bell) : Spares bell fabric (core.leave feed fabric) := by
  cases feed with
  | none => exact .refl fabric
  | some feed => exact Fabric.spares_unsubscribe fabric feed apart

theorem spares_join (core : Core) (feed : Option FeedId) (fabric : Fabric ω) {bell : BellId}
    (apart : bell ≠ core.bell) : Spares bell fabric (core.join feed fabric) := by
  cases feed with
  | none => exact .refl fabric
  | some feed =>
    have joined := Fabric.spares_subscribe fabric feed apart
    simp only [Core.join]
    split
    · refine joined.trans ⟨Fabric.hasBell_ring .., fun _ => id, fun _ => rfl, fun ringing => .inl ?_⟩
      rw [Fabric.isRinging_ring] at ringing
      simpa [apart] using ringing
    · exact joined

theorem spares_foldl_leave (core : Core) (inputs : List InputPort) (fabric : Fabric ω) {bell : BellId}
    (apart : bell ≠ core.bell) :
    Spares bell fabric (inputs.foldl (fun fabric input => core.leave input.feed fabric) fabric) := by
  induction inputs generalizing fabric with
  | nil => exact .refl fabric
  | cons input inputs ih => exact (spares_leave core input.feed fabric apart).trans (ih _)

/-- Connecting and disconnecting is a stage's own affair. -/
theorem spares_act (wiring : Wiring ω) (change : Change) {bell : BellId}
    (apart : bell ≠ wiring.core.bell) : Spares bell wiring.fabric (wiring.act change).fabric := by
  cases change with
  | connect feed port =>
    simp only [act]
    split
    next core fabric done =>
      obtain ⟨-, -, -, rfl⟩ := Core.setInput_ok done
      exact (spares_leave _ _ _ apart).trans (spares_join _ _ _ apart)
    next => exact .refl _
  | detachFeed feed =>
    simp only [act, Core.detachFeed]
    split
    · exact Fabric.spares_unsubscribe _ feed apart
    · exact .refl _
  | detachInputs => exact spares_foldl_leave _ _ _ apart
  | push feed payload =>
    simp only [act]
    split
    next accepted => exact (Fabric.fed_push accepted).spares List.not_mem_nil
    next => exact .refl _

theorem outputs_act (wiring : Wiring ω) (change : Change) :
    (wiring.act change).core.outputs = wiring.core.outputs := by
  cases change with
  | connect feed port =>
    simp only [act]
    split
    next core fabric done =>
      obtain ⟨-, -, rfl, -⟩ := Core.setInput_ok done
      rfl
    next => rfl
  | detachFeed feed =>
    simp only [act, Core.detachFeed]
    split <;> rfl
  | detachInputs => rfl
  | push feed payload =>
    simp only [act]
    split <;> rfl

theorem confined_act (wiring : Wiring ω) {change : Change} (quiet : ∀ feed payload, change ≠ .push feed payload)
    (feeds : List FeedId) : Fabric.Confined feeds wiring.fabric (wiring.act change).fabric := by
  cases change with
  | connect feed port =>
    simp only [act]
    split
    next connected =>
      exact ⟨fun id _ _ => Core.content?_setInput connected id, fun id _ _ => Core.format?_setInput connected id⟩
    next => exact .refl _
  | detachFeed feed =>
    exact ⟨fun id _ _ => Core.content?_detachFeed .., fun id _ _ => Core.format?_detachFeed ..⟩
  | detachInputs =>
    exact ⟨fun id _ _ => Core.content?_detachInputs .., fun id _ _ => Core.format?_detachInputs ..⟩
  | push feed payload => exact absurd rfl (quiet feed payload)

/-- The only way to become connected is to be connected. -/
theorem connected_act {wiring : Wiring ω} {change : Change} {id : FeedId}
    (here : (wiring.act change).Connected id) :
    wiring.Connected id ∨ ∃ port, change = .connect (some id) port := by
  obtain ⟨other, here⟩ := here
  cases changed wiring change with
  | kept _ inputs => exact .inl ⟨other, (inputs other).symm.trans here⟩
  | @connected feed port _ _ inputs =>
    rw [inputs] at here
    split at here
    next => exact .inr ⟨port, by rw [here]⟩
    next => exact .inl ⟨other, here⟩
  | detached _ _ inputs => exact .inl ⟨other, ((inputs other id).mp here).1⟩

/-- A stage without inputs cannot be made to listen. -/
theorem isRinging_act_of_no_inputs {wiring : Wiring ω} (none : wiring.core.inputs = [])
    (sound : Sound wiring) (change : Change) :
    (wiring.act change).fabric.isRinging wiring.core.bell = true →
      wiring.fabric.isRinging wiring.core.bell = true := by
  cases change with
  | connect feed port =>
    simp only [act]
    split
    next core fabric done =>
      obtain ⟨-, inside, -⟩ := Core.setInput_ok done
      simp [none] at inside
    next => exact id
  | detachFeed feed =>
    simp only [act, Core.isRinging_detachFeed]
    exact id
  | detachInputs =>
    simp only [act, Core.detachInputs, Core.isRinging_foldl_leave]
    exact id
  | push feed payload =>
    simp only [act]
    split
    next fabric accepted =>
      intro ringing
      rcases ((Fabric.fed_push accepted).spares List.not_mem_nil).rung ringing with before | ⟨id, registered⟩
      · exact before
      · obtain ⟨port, here⟩ := sound.connected id registered
        simp [input?, Core.input?, none] at here
    next => exact id

end Wiring

theorem Source.publish_ok {ω : Type} {core : Core} {frame : Raster.Image} {fabric next : Fabric ω}
    (published : Source.publish core frame fabric = .ok next) :
    ∃ feed, core.output? 0 = some feed ∧ fabric.push feed (.image frame) = .ok next := by
  unfold Source.publish at published
  split at published
  next => cases published
  next feed output =>
    cases accepted : fabric.push feed (.image frame) with
    | error => rw [accepted] at published; cases published
    | ok pushed =>
      rw [accepted] at published
      cases published
      exact ⟨feed, output, accepted⟩

section Tick

variable {ω κ : Type} [Camera ω κ] (stage : Stage (Source κ)) (fabric : Fabric ω)

theorem Source.tick_stage : (Source.tick stage fabric).2.1 =
    { stage with body := ⟨(Camera.capture stage.body.camera fabric.surroundings).2.1⟩ } := by
  unfold Source.tick
  generalize Camera.capture stage.body.camera fabric.surroundings = captured
  obtain ⟨result, camera, surroundings⟩ := captured
  cases result with
  | error => rfl
  | ok frame? =>
    cases frame? with
    | none => rfl
    | some frame =>
      simp only
      split <;> rfl

theorem Source.tick_fabric :
    let unpublished := { fabric with surroundings := (Camera.capture stage.body.camera fabric.surroundings).2.2 }
    (Source.tick stage fabric).2.2 = unpublished ∨
      ∃ feed frame, stage.core.output? 0 = some feed ∧
        unpublished.push feed (.image frame) = .ok (Source.tick stage fabric).2.2 := by
  unfold Source.tick
  generalize Camera.capture stage.body.camera fabric.surroundings = captured
  obtain ⟨result, camera, surroundings⟩ := captured
  cases result with
  | error => exact .inl rfl
  | ok frame? =>
    cases frame? with
    | none => exact .inl rfl
    | some frame =>
      simp only
      split
      next => exact .inl rfl
      next published =>
        obtain ⟨feed, output, accepted⟩ := Source.publish_ok published
        exact .inr ⟨feed, frame, output, accepted⟩

end Tick

namespace Builtin

open Fabric (Spares Fed Confined)

variable {ω : Type}

/-- A stage among feeds that exist. One that brings frames in has no inputs, and so never hears anything. -/
structure Fits (stage : Stage Builtin) (fabric : Fabric ω) : Prop where
  attentive : Attentive ⟨stage.core, fabric⟩
  rooted : ∀ id, (⟨stage.core, fabric⟩ : Wiring ω).Connected id → fabric.hasFeed id = true
  outlets : ∀ id ∈ stage.core.outputFeeds, fabric.hasFeed id = true
  source : stage.body.isLeft = true →
    stage.core.inputs = [] ∧ fabric.isRinging stage.core.bell = false

/-- What one stage and the others may expect of whatever is done to that stage. -/
structure Handled (stage : Stage Builtin) (fabric : Fabric ω) (next : Stage Builtin)
    (after : Fabric ω) : Prop where
  bell : next.core.bell = stage.core.bell
  fits : Fits stage fabric → Fits next after
  others : ∀ bell, bell ≠ stage.core.bell → Spares bell fabric after
  outputs : next.core.outputs = stage.core.outputs
  confined : Confined stage.core.outputFeeds fabric after

section Handled

variable {stage middle next : Stage Builtin} {fabric between after : Fabric ω}

theorem Fits.spared (fits : Fits stage fabric) (alike : Core.Alike stage.core next.core)
    (kind : next.body.isLeft = stage.body.isLeft) (spares : Spares stage.core.bell fabric after) :
    Fits next after where
  attentive := fits.attentive.congr alike spares.hasBell (fun id here _ => fits.rooted id here)
    spares.registrations
  rooted id here := by
    obtain ⟨port, here⟩ := here
    exact spares.hasFeed id (fits.rooted id ⟨port, (alike.input? port).symm.trans here⟩)
  outlets id member := by
    rw [Core.outputFeeds, alike.outputs] at member
    exact spares.hasFeed id (fits.outlets id member)
  source left := by
    obtain ⟨none, silent⟩ := fits.source (kind ▸ left)
    refine ⟨alike.inputs.trans none, Bool.not_eq_true _ ▸ fun ringing => ?_⟩
    rw [alike.bell] at ringing
    rcases spares.rung ringing with before | ⟨id, registered⟩
    · exact Bool.false_ne_true (silent.symm.trans before)
    · obtain ⟨port, here⟩ := fits.attentive.sound.connected id registered
      simp [Wiring.input?, Core.input?, none] at here

theorem Handled.refl (stage : Stage Builtin) (fabric : Fabric ω) : Handled stage fabric stage fabric :=
  ⟨rfl, id, fun _ _ => .refl fabric, rfl, .refl fabric⟩

theorem Handled.trans (first : Handled stage fabric middle between)
    (second : Handled middle between next after) : Handled stage fabric next after where
  bell := second.bell.trans first.bell
  fits fits := second.fits (first.fits fits)
  others bell apart := (first.others bell apart).trans (second.others bell (first.bell ▸ apart))
  outputs := second.outputs.trans first.outputs
  confined := by
    have later := second.confined
    rw [Core.outputFeeds, first.outputs, ← Core.outputFeeds] at later
    exact first.confined.trans later

theorem handled_of_fed (alike : Core.Alike stage.core next.core) (kind : next.body.isLeft = stage.body.isLeft)
    (fed : Fed stage.core.outputFeeds [] fabric after) : Handled stage fabric next after where
  bell := alike.bell
  fits fits := fits.spared alike kind (fed.spares List.not_mem_nil)
  others _ _ := fed.spares List.not_mem_nil
  outputs := alike.outputs
  confined := fed.confined

theorem handled_silence (stage : Stage Builtin) (fabric : Fabric ω) :
    Handled stage fabric stage (fabric.silence stage.core.bell) where
  bell := rfl
  fits fits :=
    have silenced : Fed [] [stage.core.bell] fabric (fabric.silence stage.core.bell) :=
      Fabric.fed_silence ..
    { fits with
      attentive := fits.attentive.fed (.refl _) silenced
      source := fun left => ⟨(fits.source left).1, by simp [Fabric.isRinging_silence]⟩ }
  others bell apart := by
    have silenced : Fed [] [stage.core.bell] fabric (fabric.silence stage.core.bell) :=
      Fabric.fed_silence ..
    exact silenced.spares (mt List.mem_singleton.mp apart)
  outputs := rfl
  confined :=
    have silenced : Fed stage.core.outputFeeds [stage.core.bell] fabric (fabric.silence stage.core.bell) :=
      Fabric.fed_silence ..
    silenced.confined

theorem handled_change (stage : Stage Builtin) (fabric : Fabric ω) (change : Wiring.Change)
    (quiet : ∀ feed payload, change ≠ .push feed payload)
    (present : ∀ id port, change = .connect (some id) port → fabric.hasFeed id = true) :
    let wiring := (⟨stage.core, fabric⟩ : Wiring ω).act change
    Handled stage fabric { stage with core := wiring.core } wiring.fabric := by
  intro wiring
  obtain ⟨bell, hasBell, hasFeed⟩ := Wiring.act_keeps (⟨stage.core, fabric⟩ : Wiring ω) change
  refine ⟨bell, fun fits => ⟨fits.attentive.act change, fun id here => ?_, fun id member => ?_,
    fun left => ?_⟩, fun other apart =>
      Wiring.spares_act (⟨stage.core, fabric⟩ : Wiring ω) change apart,
    Wiring.outputs_act .., Wiring.confined_act (⟨stage.core, fabric⟩ : Wiring ω) quiet _⟩
  · rw [hasFeed]
    rcases Wiring.connected_act here with before | ⟨port, connects⟩
    · exact fits.rooted id before
    · exact present id port connects
  · rw [Core.outputFeeds, Wiring.outputs_act] at member
    rw [hasFeed]
    exact fits.outlets id member
  · obtain ⟨none, silent⟩ := fits.source left
    have length := Wiring.length_inputs_act (⟨stage.core, fabric⟩ : Wiring ω) change
    rw [none] at length
    refine ⟨List.length_eq_zero_iff.mp length, Bool.not_eq_true _ ▸ fun ringing => ?_⟩
    rw [bell] at ringing
    have before := Wiring.isRinging_act_of_no_inputs none fits.attentive.sound change ringing
    exact Bool.false_ne_true (silent.symm.trans before)

theorem handled_detachInputs (stage : Stage Builtin) (fabric : Fabric ω) :
    Handled stage fabric { stage with core := (stage.core.detachInputs fabric).1 }
      (stage.core.detachInputs fabric).2 :=
  handled_change stage fabric .detachInputs nofun nofun

theorem handled_detachFeed (stage : Stage Builtin) (fabric : Fabric ω) (feed : FeedId) :
    Handled stage fabric { stage with core := (stage.core.detachFeed feed fabric).1 }
      (stage.core.detachFeed feed fabric).2 :=
  handled_change stage fabric (.detachFeed feed) nofun nofun

end Handled

/-! The steps of the kinds of stage. -/

section Steps

variable (fabric : Fabric ω)

/-- A tick of a source pushes on its output. -/
theorem tick_spec (stage : Stage (Source SquareSource)) :
    Fed stage.core.outputFeeds [] fabric (Source.tick stage fabric).2.2 ∧
      (Source.tick stage fabric).2.1.core = stage.core := by
  refine ⟨?_, (congrArg Stage.core (Source.tick_stage stage fabric) :)⟩
  have same : Fed stage.core.outputFeeds [] fabric
      { fabric with surroundings := (Camera.capture stage.body.camera fabric.surroundings).2.2 } :=
    { Fed.refl fabric with }
  rcases Source.tick_fabric stage fabric with unpublished | ⟨feed, frame, output, accepted⟩
  · rw [unpublished]
    exact same
  · refine same.trans ((Fabric.fed_push accepted).mono (fun id member => ?_) (List.Subset.refl _))
    rw [List.mem_singleton.mp member]
    exact Core.mem_outputFeeds output

theorem poll_source (core : Core) (source : Source SquareSource) :
    Behaviour.poll (⟨core, .inl source⟩ : Stage Builtin) fabric =
      Hook.widen .inl (Stage.pollOnTick Source.tick) core source fabric := rfl

theorem poll_tracker (core : Core) (tracker : BlobTracker.Body) :
    Behaviour.poll (⟨core, .inr tracker⟩ : Stage Builtin) fabric =
      Hook.widen .inr (Stage.pollOnNews BlobTracker.update) core tracker fabric := rfl

inductive Polled (stage : Stage Builtin) : Bool × Stage Builtin × Fabric ω → Prop
  | off (stopped : stage.isStarted = false) : Polled stage (false, stage, fabric)
  | quiet (tracker : BlobTracker.Body) (kind : stage.body = .inr tracker)
      (silent : fabric.isRinging stage.core.bell = false) : Polled stage (false, stage, fabric)
  | ticked (source : Source SquareSource) (kind : stage.body = .inl source)
      (started : stage.isStarted = true)
      (outcome : Except Failure Bool × Stage (Source SquareSource) × Fabric ω)
      (done : Source.tick ⟨stage.core, source⟩ fabric = outcome) :
      Polled stage ((Stage.settle outcome).1, (Stage.settle outcome).2.1.mapBody .inl,
        (Stage.settle outcome).2.2)
  | updated (tracker : BlobTracker.Body) (kind : stage.body = .inr tracker) (started : stage.isStarted = true)
      (ringing : fabric.isRinging stage.core.bell = true)
      (outcome : Except Failure Unit × Stage BlobTracker.Body × Fabric ω)
      (done : BlobTracker.update ⟨stage.core, tracker⟩ (fabric.silence stage.core.bell) = outcome) :
      Polled stage ((Stage.settle (outcome.1.map fun () => true, outcome.2)).1,
        (Stage.settle (outcome.1.map fun () => true, outcome.2)).2.1.mapBody .inr,
        (Stage.settle (outcome.1.map fun () => true, outcome.2)).2.2)

theorem polled (stage : Stage Builtin) : Polled fabric stage (Behaviour.poll stage fabric) := by
  obtain ⟨core, body⟩ := stage
  cases body with
  | inl source =>
    rw [poll_source, Hook.widen, Stage.pollOnTick]
    by_cases started : (⟨core, source⟩ : Stage (Source SquareSource)).isStarted = true
    · rw [if_pos started]
      exact .ticked source rfl started _ rfl
    · rw [if_neg started]
      exact .off (Bool.eq_false_iff.mpr started)
  | inr tracker =>
    rw [poll_tracker, Hook.widen, Stage.pollOnNews]
    cases started : (⟨core, tracker⟩ : Stage BlobTracker.Body).isStarted with
    | false =>
      rw [Bool.false_and, if_neg Bool.false_ne_true]
      exact .off started
    | true =>
      cases ringing : fabric.isRinging core.bell with
      | false =>
        rw [Bool.true_and, if_neg Bool.false_ne_true]
        exact .quiet tracker rfl ringing
      | true =>
        rw [Bool.true_and, if_pos rfl]
        exact .updated tracker rfl started ringing _ rfl

/-- What a step does to its stage and to the feeds of its outputs, once the bell is silenced. -/
structure Stepped (stage : Stage Builtin) (fabric : Fabric ω) (next : Stage Builtin)
    (after : Fabric ω) : Prop where
  alike : Core.Alike stage.core next.core
  kind : next.body.isLeft = stage.body.isLeft
  started : next.isStarted = true → stage.isStarted = true
  fed : Fed stage.core.outputFeeds [] fabric after

theorem Stepped.handled {stage next : Stage Builtin} {fabric after : Fabric ω}
    (stepped : Stepped stage fabric next after) : Handled stage fabric next after :=
  handled_of_fed stepped.alike stepped.kind stepped.fed

theorem stepped_tick (core : Core) (source : Source SquareSource) :
    let outcome := Stage.settle (Source.tick ⟨core, source⟩ fabric)
    Stepped ⟨core, .inl source⟩ fabric (outcome.2.1.mapBody .inl) outcome.2.2 := by
  obtain ⟨fed, same⟩ := tick_spec fabric ⟨core, source⟩
  generalize Source.tick ⟨core, source⟩ fabric = outcome at fed same
  obtain ⟨result, stage, after⟩ := outcome
  obtain ⟨alike, started, settled⟩ := Stage.settle_spec result stage after
  refine ⟨?_, rfl, fun on => ?_, ?_⟩
  · exact same ▸ alike
  · exact (congrArg Core.isStarted same).symm.trans (started.symm.trans on)
  · exact settled.symm ▸ fed

theorem stepped_update (core : Core) (tracker : BlobTracker.Body) :
    let outcome := BlobTracker.update ⟨core, tracker⟩ fabric
    let settled := Stage.settle (outcome.1.map fun () => true, outcome.2)
    Stepped ⟨core, .inr tracker⟩ fabric (settled.2.1.mapBody .inr) settled.2.2 := by
  obtain ⟨fed, alike, off⟩ := BlobTracker.update_spec ⟨core, tracker⟩ fabric
  generalize BlobTracker.update ⟨core, tracker⟩ fabric = outcome at fed alike off
  obtain ⟨result, stage, after⟩ := outcome
  obtain ⟨kept, started, settled⟩ := Stage.settle_spec (result.map fun () => true) stage after
  exact ⟨alike.trans kept, rfl, fun on => off (started ▸ on), settled.symm ▸ fed⟩

theorem handled_poll (stage : Stage Builtin) :
    Handled stage fabric (Behaviour.poll stage fabric).2.1 (Behaviour.poll stage fabric).2.2 := by
  obtain ⟨core, body⟩ := stage
  have poll := polled fabric ⟨core, body⟩
  generalize Behaviour.poll (⟨core, body⟩ : Stage Builtin) fabric = outcome at poll
  cases poll with
  | off | quiet => exact .refl ..
  | ticked source kind _ _ done =>
    cases kind
    exact done ▸ (stepped_tick fabric core source).handled
  | updated tracker kind _ _ _ done =>
    cases kind
    exact (handled_silence ..).trans (done ▸ (stepped_update (fabric.silence core.bell) core tracker).handled)

/-- A poll of a started stage silences the bell, if it rings, and takes one step. -/
theorem stepped_poll {stage : Stage Builtin} (fits : Fits stage fabric)
    (started : stage.isStarted = true) :
    Stepped stage (fabric.silence stage.core.bell) (Behaviour.poll stage fabric).2.1
      (Behaviour.poll stage fabric).2.2 := by
  obtain ⟨core, body⟩ := stage
  have poll := polled fabric ⟨core, body⟩
  generalize Behaviour.poll (⟨core, body⟩ : Stage Builtin) fabric = outcome at poll
  cases poll with
  | off stopped => exact absurd (stopped.symm.trans started) Bool.false_ne_true
  | quiet tracker _ silent => exact ⟨.refl _, rfl, id, Fabric.fed_of_silent _ _ silent⟩
  | ticked source kind _ _ done =>
    cases kind
    have step := done ▸ stepped_tick fabric core source
    exact { step with fed := (Fabric.fed_of_silent _ _ (fits.source rfl).2).trans step.fed }
  | updated tracker kind _ _ _ done =>
    cases kind
    exact done ▸ stepped_update (fabric.silence core.bell) core tracker

theorem handled_update (stage : Stage Builtin) :
    Handled stage fabric (Behaviour.update stage fabric).2.1 (Behaviour.update stage fabric).2.2 := by
  obtain ⟨core, body⟩ := stage
  cases body with
  | inl source => exact .refl ..
  | inr tracker =>
    obtain ⟨fed, alike, -⟩ := BlobTracker.update_spec ⟨core, tracker⟩ fabric
    exact handled_of_fed alike rfl fed

theorem handled_onStart (stage : Stage Builtin) :
    Handled stage fabric (Behaviour.onStart stage fabric).2.1 (Behaviour.onStart stage fabric).2.2 := by
  obtain ⟨core, body⟩ := stage
  cases body with
  | inl source =>
    have same : Fed core.outputFeeds [] fabric (Source.onStart ⟨core, source⟩ fabric).2.2 := { Fed.refl fabric with }
    exact handled_of_fed (.refl _) rfl same
  | inr tracker =>
    have same : Fed core.outputFeeds [] fabric (BlobTracker.onStart ⟨core, tracker⟩ fabric).2.2 := by
      rw [BlobTracker.fabric_onStart]
      exact .refl fabric
    have kept := BlobTracker.core_onStart ⟨core, tracker⟩ fabric
    have alike : Core.Alike core (BlobTracker.onStart ⟨core, tracker⟩ fabric).2.1.core := kept ▸ .refl core
    exact handled_of_fed alike rfl same

theorem handled_start (stage : Stage Builtin) :
    Handled stage fabric (stage.start fabric).2.1 (stage.start fabric).2.2 := by
  have begun := handled_onStart fabric stage
  unfold Stage.start
  split
  next => exact .refl ..
  next =>
    generalize Behaviour.onStart stage fabric = outcome at begun
    obtain ⟨result, next, after⟩ := outcome
    cases result with
    | error failure => exact begun.trans (handled_of_fed (Core.alike_fail ..) rfl (.refl after))
    | ok => exact begun.trans (handled_of_fed ⟨rfl, rfl, rfl⟩ rfl (.refl after))

theorem handled_stop (stage : Stage Builtin) :
    Handled stage fabric (stage.stop fabric).1 (stage.stop fabric).2 := by
  obtain ⟨core, body⟩ := stage
  unfold Stage.stop Stage.stopBy
  split
  next =>
    cases body with
    | inl source =>
      have same : Fed core.outputFeeds [] fabric (Source.onStop ⟨core, source⟩ fabric).2 := { Fed.refl fabric with }
      exact handled_of_fed ⟨rfl, rfl, rfl⟩ rfl same
    | inr tracker =>
      exact handled_of_fed ⟨rfl, rfl, rfl⟩ rfl (.refl fabric)
  next => exact .refl ..

theorem handled_write (stage : Stage Builtin) (name : String) (value : Property.Value) :
    let written := (stage.core.setProperty name value fabric).2
    Handled stage fabric { stage with core := written.1 } written.2 := by
  obtain ⟨alike, -, fed⟩ := Core.setProperty_spec stage.core name value fabric
  exact handled_of_fed alike rfl (fed.mono (List.nil_subset _) (List.Subset.refl _))

theorem handled_lockId (stage : Stage Builtin) :
    Handled stage fabric { stage with core := stage.core.lockId } fabric := by
  refine handled_of_fed ?_ rfl (.refl fabric)
  unfold Core.lockId
  split
  · exact ⟨rfl, rfl, rfl⟩
  · exact .refl _

theorem fed_takeSince {feeds : List FeedId} {bells : List BellId} (stage : Stage Builtin) :
    Fed feeds bells fabric (Pipeline.takeSince stage fabric).2 := by
  unfold Pipeline.takeSince
  split
  · exact Fabric.fed_modifyBell_of_kept _ _ fun _ => rfl
  · exact .refl fabric

theorem handled_turn (stage : Stage Builtin) :
    Handled stage fabric (Pipeline.turn stage fabric).2.1 (Pipeline.turn stage fabric).2.2 := by
  unfold Pipeline.turn
  split
  next =>
    have looked : Fed stage.core.outputFeeds [] fabric (Pipeline.takeSince stage fabric).2 := fed_takeSince fabric stage
    have polled := handled_poll (Pipeline.takeSince stage fabric).2 stage
    refine ((handled_of_fed (.refl _) rfl looked).trans polled).trans ?_
    refine handled_of_fed ?_ ?_ (.refl _)
    · simp only
      split
      · exact ⟨rfl, rfl, rfl⟩
      · exact .refl _
    · simp only
      split <;> rfl
  next => exact .refl ..

end Steps

end Builtin

end TouchTracking
