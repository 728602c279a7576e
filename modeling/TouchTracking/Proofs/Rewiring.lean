import Mathlib.Logic.Relation
import TouchTracking.Proofs.Names

/-! The wiring of a stage of any kind, with any number of inputs. Whatever is done to the stage, as far as its bell and
its inputs are concerned it can only connect inputs to feeds that exist, or disconnect them. So the bell goes on being
registered nowhere but where an input is connected, and of the other bells none is touched. Of the hooks of a kind of
stage this is asked for; all else that is done to a stage does no more by itself. -/
namespace TouchTracking

open TouchTracking.Core (IdSteps)

variable {ω σ : Type}

namespace Fabric

/-- A change that leaves a bell where it is registered. -/
structure Leaves (bell : BellId) (fabric next : Fabric ω) : Prop where
  hasBell : next.hasBell bell = fabric.hasBell bell
  hasFeed : ∀ id, fabric.hasFeed id = true → next.hasFeed id = true
  registrations : ∀ id, next.registrations bell id = fabric.registrations bell id

variable {bell : BellId} {fabric middle next : Fabric ω}

theorem Leaves.refl (fabric : Fabric ω) : Leaves bell fabric fabric := ⟨rfl, fun _ => id, fun _ => rfl⟩

theorem Leaves.trans (first : Leaves bell fabric middle) (second : Leaves bell middle next) :
    Leaves bell fabric next :=
  ⟨second.hasBell.trans first.hasBell, fun id present => second.hasFeed id (first.hasFeed id present),
    fun id => (second.registrations id).trans (first.registrations id)⟩

theorem Spares.leaves (spares : Spares bell fabric next) : Leaves bell fabric next :=
  ⟨spares.hasBell, spares.hasFeed, spares.registrations⟩

theorem Fed.leaves {feeds : List FeedId} {bells : List BellId} (fed : Fed feeds bells fabric next) (bell : BellId) :
    Leaves bell fabric next :=
  ⟨fed.hasBell bell, fun id present => fed.hasFeed id ▸ present, fed.registrations bell⟩

end Fabric

open Fabric (Leaves Fed)

namespace Wiring

variable {wiring next : Wiring ω}

/-- A stage among feeds that exist. Its bell is registered only where an input is connected, and wherever one is if
there is one input at most. -/
structure Wired (wiring : Wiring ω) : Prop where
  known : wiring.fabric.hasBell wiring.core.bell = true
  sound : Sound wiring
  rooted : ∀ id, wiring.Connected id → wiring.fabric.hasFeed id = true
  outlets : ∀ id ∈ wiring.core.outputFeeds, wiring.fabric.hasFeed id = true
  hears : wiring.core.inputs.length ≤ 1 → Hears wiring

/-- One thing that is done to a stage, as far as it concerns the registrations of bells. -/
inductive Step (wiring : Wiring ω) : Wiring ω → Prop
  | keep {next : Wiring ω} (alike : Core.Alike wiring.core next.core)
      (leaves : ∀ bell, Leaves bell wiring.fabric next.fabric) : Step wiring next
  | change (change : Change)
      (present : ∀ id port, change = .connect (some id) port → wiring.fabric.hasFeed id = true) :
      Step wiring (wiring.act change)

/-- What has become of a stage and its fabric by such things, one after the other. -/
abbrev Steps : Wiring ω → Wiring ω → Prop := Relation.ReflTransGen Step

/-- Nothing else matters than the ports of the stage and where its bell is registered. -/
theorem Wired.keep (wired : Wired wiring) (alike : Core.Alike wiring.core next.core)
    (leaves : Leaves wiring.core.bell wiring.fabric next.fabric) : Wired next := by
  have same (id : FeedId) : next.registrations id = wiring.registrations id := by
    rw [registrations, alike.bell, leaves.registrations, registrations]
  have connected (id : FeedId) : next.Connected id ↔ wiring.Connected id := by
    simp only [Connected, input?, alike.input?]
  refine ⟨by rw [alike.bell, leaves.hasBell, wired.known], ⟨fun id => ?_, fun id positive => ?_⟩, fun id here => ?_,
    fun id member => ?_, fun few id _ here => ?_⟩
  · exact same id ▸ wired.sound.once id
  · exact (connected id).mpr (wired.sound.connected id (same id ▸ positive))
  · exact leaves.hasFeed id (wired.rooted id ((connected id).mp here))
  · rw [Core.outputFeeds, alike.outputs] at member
    exact leaves.hasFeed id (wired.outlets id member)
  · have here := (connected id).mp here
    exact same id ▸ wired.hears (alike.inputs ▸ few) id (wired.rooted id here) here

theorem Wired.act (wired : Wired wiring) (change : Change)
    (present : ∀ id port, change = .connect (some id) port → wiring.fabric.hasFeed id = true) :
    Wired (wiring.act change) := by
  obtain ⟨bell, hasBell, hasFeed⟩ := act_keeps wiring change
  have step := changed wiring change
  refine ⟨by rw [bell, hasBell, wired.known], sound_changed wired.sound step, fun id here => ?_, fun id member => ?_,
    fun few => ?_⟩
  · rw [hasFeed]
    rcases connected_act here with before | ⟨port, connects⟩
    · exact wired.rooted id before
    · exact present id port connects
  · rw [Core.outputFeeds, outputs_act] at member
    exact hasFeed id ▸ wired.outlets id member
  · have few := length_inputs_act wiring change ▸ few
    exact hears_changed (wired.hears few) hasFeed (not_parts_of_few few change) step

/-- What one stage and the others may expect of whatever is done to that stage. -/
structure Minded (wiring next : Wiring ω) : Prop where
  bell : next.core.bell = wiring.core.bell
  wired : Wired wiring → Wired next
  others : ∀ bell, bell ≠ wiring.core.bell → Leaves bell wiring.fabric next.fabric

theorem Step.minded (step : Step wiring next) : Minded wiring next := by
  cases step with
  | keep alike leaves => exact ⟨alike.bell, fun wired => wired.keep alike (leaves _), fun bell _ => leaves bell⟩
  | change change present =>
    exact ⟨(act_keeps wiring change).1, fun wired => wired.act change present,
      fun bell apart => (spares_act wiring change apart).leaves⟩

theorem Steps.minded (steps : Steps wiring next) : Minded wiring next := by
  induction steps with
  | refl => exact ⟨rfl, id, fun _ _ => .refl _⟩
  | tail _ step ih =>
    have last := step.minded
    exact ⟨last.bell.trans ih.bell, fun wired => last.wired (ih.wired wired),
      fun bell apart => (ih.others bell apart).trans (last.others bell (ih.bell ▸ apart))⟩

theorem steps_of_fed {core next : Core} {fabric after : Fabric ω} {feeds : List FeedId} {bells : List BellId}
    (alike : Core.Alike core next) (fed : Fed feeds bells fabric after) : Steps ⟨core, fabric⟩ ⟨next, after⟩ :=
  .single (.keep alike fed.leaves)

theorem wired_make {fabric : Fabric ω} (closed : fabric.Closed) (info : StageInfo) (inputs outputs : List Port) :
    Wired (Wiring.make info inputs outputs fabric) := by
  obtain ⟨silent, loose, known⟩ := make_unwired closed info inputs outputs
  refine ⟨known, ⟨fun id => ?_, fun id positive => ?_⟩, fun id here => absurd here (loose id), fun id member => ?_,
    fun _ id _ here => absurd here (loose id)⟩
  · rw [silent]
    exact Nat.zero_le 1
  · rw [silent] at positive
    exact absurd positive (Nat.lt_irrefl 0)
  · obtain ⟨output, listed, rfl⟩ := List.mem_map.mp member
    exact Core.hasFeed_addOutputs outputs _ output listed

end Wiring

open Wiring (Steps steps_of_fed)

/-- What is done to a stage, as far as it concerns its id, its inputs and the bells. -/
structure Served (stage : Stage σ) (fabric : Fabric ω) (next : Stage σ) (after : Fabric ω) : Prop where
  ids : IdSteps stage.core fabric next.core after
  wires : Steps ⟨stage.core, fabric⟩ ⟨next.core, after⟩

/-- Of the inputs of a stage, and of where bells are registered, the hooks of its kind change nothing but by connecting
inputs to feeds that exist, or disconnecting them. -/
structure Proper (ω σ : Type) [Behaviour ω σ] : Prop where
  onStart : ∀ (stage : Stage σ) (fabric : Fabric ω), Steps ⟨stage.core, fabric⟩
    ⟨(Behaviour.onStart stage fabric).2.1.core, (Behaviour.onStart stage fabric).2.2⟩
  onStop : ∀ (stage : Stage σ) (fabric : Fabric ω), Steps ⟨stage.core, fabric⟩
    ⟨(Behaviour.onStop stage fabric).1.core, (Behaviour.onStop stage fabric).2⟩
  poll : ∀ (stage : Stage σ) (fabric : Fabric ω), Steps ⟨stage.core, fabric⟩
    ⟨(Behaviour.poll stage fabric).2.1.core, (Behaviour.poll stage fabric).2.2⟩

namespace Served

variable {stage middle next : Stage σ} {fabric between after : Fabric ω}

theorem refl (stage : Stage σ) (fabric : Fabric ω) : Served stage fabric stage fabric := ⟨.idle, .refl⟩

theorem trans (first : Served stage fabric middle between) (second : Served middle between next after) :
    Served stage fabric next after :=
  ⟨first.ids.trans second.ids, first.wires.trans second.wires⟩

theorem joined {core : Core} {feed : Option FeedId} {port : Nat} (present : feed.all fabric.hasFeed = true)
    (connected : stage.core.setInput feed port fabric = .ok (core, after)) :
    Served stage fabric { stage with core } after := by
  refine ⟨Core.idSteps_setInput connected, .single ?_⟩
  have step : Wiring.Step ⟨stage.core, fabric⟩ ((⟨stage.core, fabric⟩ : Wiring ω).act (.connect feed port)) :=
    .change _ fun id _ same => by
      cases same
      exact present
  simpa only [Wiring.act, connected] using step

theorem detachInputs (stage : Stage σ) (fabric : Fabric ω) :
    Served stage fabric { stage with core := (stage.core.detachInputs fabric).1 }
      (stage.core.detachInputs fabric).2 :=
  ⟨Core.idSteps_detachInputs stage.core fabric, .single (.change .detachInputs fun _ _ same => by cases same)⟩

theorem detachFeed (stage : Stage σ) (feed : FeedId) (fabric : Fabric ω) :
    Served stage fabric { stage with core := (stage.core.detachFeed feed fabric).1 }
      (stage.core.detachFeed feed fabric).2 :=
  ⟨Core.idSteps_detachFeed stage.core feed fabric, .single (.change (.detachFeed feed) fun _ _ same => by cases same)⟩

theorem detachAll (feeds : List FeedId) (stage : Stage σ) (fabric : Fabric ω) :
    Served stage fabric (Pipeline.detachAll feeds stage fabric).1 (Pipeline.detachAll feeds stage fabric).2 := by
  induction feeds generalizing stage fabric with
  | nil => exact .refl stage fabric
  | cons feed feeds ih => exact (detachFeed stage feed fabric).trans (ih _ _)

theorem write (stage : Stage σ) (name : String) (value : Property.Value) (fabric : Fabric ω) :
    let written := (stage.core.setProperty name value fabric).2
    Served stage fabric { stage with core := written.1 } written.2 := by
  obtain ⟨alike, -, fed⟩ := Core.setProperty_spec stage.core name value fabric
  exact ⟨Core.idSteps_setProperty stage.core fabric name value, steps_of_fed alike fed⟩

theorem lock (stage : Stage σ) (fabric : Fabric ω) :
    Served stage fabric { stage with core := stage.core.lockId } fabric := by
  have alike : Core.Alike stage.core stage.core.lockId := by
    rw [Core.lockId_same]
    exact ⟨rfl, rfl, rfl⟩
  exact ⟨Core.IdStep.lock.steps, .single (.keep alike fun _ => .refl fabric)⟩

theorem noted {core : Core} (alike : Core.Alike stage.core core)
    (properties : core.properties = stage.core.properties) :
    Served stage fabric { stage with core } fabric :=
  ⟨Core.idSteps_of_same alike.bell properties (.refl fabric), .single (.keep alike fun _ => .refl fabric)⟩

section Hooks

variable [Behaviour ω σ] (discreet : Discreet ω σ) (proper : Proper ω σ) (stage : Stage σ) (fabric : Fabric ω)

include discreet proper

theorem start : Served stage fabric (stage.start fabric).2.1 (stage.start fabric).2.2 := by
  have begun : Served stage fabric _ _ := ⟨discreet.onStart stage fabric, proper.onStart stage fabric⟩
  unfold Stage.start
  split
  next => exact .refl stage fabric
  next =>
    generalize Behaviour.onStart stage fabric = outcome at begun
    obtain ⟨result, next, after⟩ := outcome
    cases result <;> exact begun.trans (noted ⟨rfl, rfl, rfl⟩ rfl)

theorem stop : Served stage fabric (stage.stop fabric).1 (stage.stop fabric).2 := by
  have done : Served stage fabric _ _ := ⟨discreet.onStop stage fabric, proper.onStop stage fabric⟩
  unfold Stage.stop Stage.stopBy
  split
  next => exact done.trans (noted ⟨rfl, rfl, rfl⟩ rfl)
  next => exact .refl stage fabric

theorem poll : Served stage fabric (Behaviour.poll stage fabric).2.1 (Behaviour.poll stage fabric).2.2 :=
  ⟨discreet.poll stage fabric, proper.poll stage fabric⟩

theorem turn : Served stage fabric (Pipeline.turn stage fabric).2.1 (Pipeline.turn stage fabric).2.2 := by
  have ids := discreet.turn stage fabric
  refine ⟨ids, ?_⟩
  unfold Pipeline.turn
  split
  next =>
    have looked : Fed [] [] fabric (Pipeline.takeSince stage fabric).2 := by
      unfold Pipeline.takeSince
      split
      · exact Fabric.fed_modifyBell_of_kept _ _ fun _ => rfl
      · exact .refl fabric
    refine (steps_of_fed (.refl _) looked).trans ((proper.poll stage (Pipeline.takeSince stage fabric).2).trans ?_)
    have same (after : Fabric ω) : Fed [] [] after after := .refl after
    refine steps_of_fed ?_ (same _)
    simp only
    split
    · exact ⟨rfl, rfl, rfl⟩
    · exact .refl _
  next => exact .refl

end Hooks

end Served

/-- The hooks of the stages that come with the library leave the inputs alone. -/
theorem Builtin.proper_builtin : Proper ω Builtin where
  onStart stage fabric := by
    obtain ⟨core, body⟩ := stage
    cases body with
    | inl source =>
      have same : Fed [] [] fabric (Source.onStart ⟨core, source⟩ fabric).2.2 := { Fed.refl fabric with }
      exact steps_of_fed (.refl core) same
    | inr tracker =>
      have kept := BlobTracker.core_onStart ⟨core, tracker⟩ fabric
      have alike : Core.Alike core (BlobTracker.onStart ⟨core, tracker⟩ fabric).2.1.core := kept ▸ .refl core
      have same : Fed [] [] fabric (BlobTracker.onStart ⟨core, tracker⟩ fabric).2.2 := by
        rw [BlobTracker.fabric_onStart]
        exact .refl fabric
      exact steps_of_fed alike same
  onStop stage fabric := by
    obtain ⟨core, body⟩ := stage
    have same (surroundings : ω) : Fed [] [] fabric { fabric with surroundings } := { Fed.refl fabric with }
    cases body with
    | inl source => exact steps_of_fed (.refl core) (same _)
    | inr tracker => exact steps_of_fed (.refl core) (same _)
  poll stage fabric := by
    obtain ⟨core, body⟩ := stage
    have poll := polled fabric ⟨core, body⟩
    generalize Behaviour.poll (⟨core, body⟩ : Stage Builtin) fabric = outcome at poll
    cases poll with
    | off | quiet => exact .refl
    | ticked source kind _ _ done =>
      cases kind
      have step := done ▸ stepped_tick fabric core source
      exact steps_of_fed step.alike step.fed
    | updated tracker kind _ _ _ done =>
      cases kind
      have silenced : Fed [] [core.bell] fabric (fabric.silence core.bell) := Fabric.fed_silence ..
      have step := done ▸ stepped_update (fabric.silence core.bell) core tracker
      exact .trans (steps_of_fed (.refl core) silenced) (steps_of_fed step.alike step.fed)

end TouchTracking
