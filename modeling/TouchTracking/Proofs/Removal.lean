import TouchTracking.Proofs.Names

/-! Taking a stage out of a pipeline. The bell of the stage is taken off every feed, and the bells of the others off
the feeds of its outputs. Nothing else changes: the feeds keep their payloads, their counts and the order of the
bells that stay, and the stages that stay keep their order and whatever they have beside those connections. -/
namespace TouchTracking

open Builtin (Fits Handled)
open Wiring (Attentive Sound)

variable {ω : Type}

namespace Fabric

/-- Takes bells off feeds, and leaves everything else as it is. -/
def strike (fabric : Fabric ω) (struck : FeedId → BellId → Bool) : Fabric ω :=
  { fabric with
    feeds := fabric.feeds.mapIdx fun index feed =>
      { feed with observers := feed.observers.filter fun bell => !struck ⟨index⟩ bell } }

variable (fabric : Fabric ω) (struck more : FeedId → BellId → Bool)

theorem feed?_strike (id : FeedId) :
    (fabric.strike struck).feed? id =
      (fabric.feed? id).map fun feed =>
        { feed with observers := feed.observers.filter fun bell => !struck id bell } := by
  simp [strike, feed?]

/-- A fabric is known by its feeds, one by one, and by the rest of it. -/
theorem eq_of_feeds {fabric next : Fabric ω} (feeds : ∀ id, next.feed? id = fabric.feed? id)
    (rest : { next with feeds := fabric.feeds } = fabric) : next = fabric := by
  have same : next.feeds = fabric.feeds := Array.ext_getElem? fun index => feeds ⟨index⟩
  rw [← rest, ← same]

theorem registrations_strike (bell : BellId) (id : FeedId) :
    (fabric.strike struck).registrations bell id =
      if struck id bell then 0 else fabric.registrations bell id := by
  rw [registrations, feed?_strike, registrations]
  cases fabric.feed? id with
  | none => simp
  | some feed =>
    rw [Option.map_some]
    cases here : struck id bell with
    | true => simp [List.count_eq_zero, here]
    | false => simp [List.count_filter, here]

theorem strike_strike :
    (fabric.strike struck).strike more = fabric.strike fun id bell => struck id bell || more id bell := by
  refine eq_of_feeds (fun id => ?_) rfl
  simp only [feed?_strike, Option.map_map]
  congr 1
  funext feed
  simp [List.filter_filter, Bool.and_comm]

variable {fabric struck more}

theorem strike_congr
    (same : ∀ id bell, 0 < fabric.registrations bell id → struck id bell = more id bell) :
    fabric.strike struck = fabric.strike more := by
  refine eq_of_feeds (fun id => ?_) rfl
  simp only [feed?_strike]
  cases found : fabric.feed? id with
  | none => rfl
  | some feed =>
    have kept : feed.observers.filter (fun bell => !struck id bell) =
        feed.observers.filter fun bell => !more id bell := by
      refine List.filter_congr fun bell listed => ?_
      rw [same id bell]
      simpa [registrations, found, List.count_pos_iff] using listed
    simp only [Option.map_some, kept]

theorem strike_nothing (none : ∀ id bell, 0 < fabric.registrations bell id → struck id bell = false) :
    fabric.strike struck = fabric := by
  refine eq_of_feeds (fun id => ?_) rfl
  rw [feed?_strike]
  cases found : fabric.feed? id with
  | none => rfl
  | some feed =>
    have kept : feed.observers.filter (fun bell => !struck id bell) = feed.observers := by
      refine List.filter_eq_self.mpr fun bell listed => ?_
      rw [none id bell]
      · rfl
      · simpa [registrations, found, List.count_pos_iff] using listed
    rw [Option.map_some, kept]

theorem unsubscribe_eq_strike (fabric : Fabric ω) (feed : FeedId) (bell : BellId) :
    fabric.unsubscribe feed bell = fabric.strike fun id other => decide (id = feed) && decide (other = bell) := by
  refine (eq_of_feeds (fun id => ?_) rfl).symm
  rw [unsubscribe, feed?_modifyFeed, feed?_strike]
  by_cases here : id = feed
  · simp [here, Feed.unsubscribe]
  · rw [if_neg here]
    cases fabric.feed? id with
    | none => rfl
    | some target =>
      have kept : target.observers.filter (fun other => !(decide (id = feed) && decide (other = bell))) =
          target.observers :=
        List.filter_eq_self.mpr fun other _ => by simp [here]
      rw [Option.map_some, kept]

end Fabric

namespace Core

/-- Disconnects the inputs from some feeds, and leaves everything else as it is. -/
def cut (core : Core) (feeds : List FeedId) : Core :=
  { core with
    inputs := core.inputs.map fun input =>
      if input.feed.any (· ∈ feeds) then { input with feed := none } else input }

theorem cut_nil (core : Core) : core.cut [] = core := by
  simp [cut]

theorem cut_cut (core : Core) (feed : FeedId) (feeds : List FeedId) :
    (core.cut [feed]).cut feeds = core.cut (feed :: feeds) := by
  simp only [cut, List.map_map]
  congr 1
  refine List.map_congr_left fun input _ => ?_
  cases connected : input.feed with
  | none => simp [connected]
  | some id => by_cases here : id = feed <;> simp [connected, here]

theorem not_mem_of_input?_cut {core : Core} {feeds : List FeedId} {port : Nat} {id : FeedId}
    (here : (core.cut feeds).input? port = some id) : id ∉ feeds := by
  obtain ⟨input, found, fed⟩ := Option.bind_eq_some_iff.mp here
  obtain ⟨old, -, rfl⟩ := List.mem_map.mp (List.mem_of_getElem? found)
  intro member
  split at fed
  next => cases fed
  next elsewhere => simp [fed, member] at elsewhere

variable {core : Core} {fabric : Fabric ω}

/-- A bell that is registered only where an input is connected leaves a feed together with the inputs. -/
theorem detachFeed_eq (sound : Sound ⟨core, fabric⟩) (feed : FeedId) :
    core.detachFeed feed fabric =
      (core.cut [feed], fabric.strike fun id bell => decide (id = feed) && decide (bell = core.bell)) := by
  have inputs : (core.cut [feed]).inputs =
      core.inputs.map fun input => if input.feed = some feed then { input with feed := none } else input := by
    refine List.map_congr_left fun input _ => ?_
    cases input.feed <;> simp
  unfold detachFeed
  split
  next =>
    rw [Fabric.unsubscribe_eq_strike, ← inputs]
    rfl
  next loose =>
    have unconnected : core.cut [feed] = core := by
      have kept : (core.cut [feed]).inputs = core.inputs := by
        rw [inputs]
        refine (List.map_congr_left fun input member => if_neg fun here => loose ?_).trans (List.map_id' _)
        exact List.any_eq_true.mpr ⟨input, member, beq_iff_eq.mpr here⟩
      exact congrArg (fun inputs => { core with inputs }) kept
    rw [unconnected, Fabric.strike_nothing]
    intro id bell registered
    by_cases same : id = feed ∧ bell = core.bell
    · obtain ⟨rfl, rfl⟩ := same
      exact absurd ((connected_iff_any core id).mpr (sound.connected id registered)) loose
    · simpa using same

theorem foldl_leave_eq (core : Core) (inputs : List InputPort) (fabric : Fabric ω) :
    inputs.foldl (fun fabric input => core.leave input.feed fabric) fabric =
      fabric.strike fun id bell => decide (bell = core.bell) && inputs.any (·.feed == some id) := by
  induction inputs generalizing fabric with
  | nil => exact (Fabric.strike_nothing fun _ _ _ => Bool.and_false _).symm
  | cons input inputs ih =>
    rw [List.foldl_cons, ih]
    cases connected : input.feed with
    | none => simp [leave, connected]
    | some feed =>
      rw [leave, Fabric.unsubscribe_eq_strike, Fabric.strike_strike]
      congr 1
      funext id bell
      have same : (some feed == some id) = decide (id = feed) := by
        by_cases here : id = feed
        · simp [here]
        · simp [here, Ne.symm here]
      rw [List.any_cons, connected, same, Bool.and_or_distrib_left, Bool.and_comm]

theorem detachInputs_eq (sound : Sound ⟨core, fabric⟩) :
    core.detachInputs fabric =
      ({ core with inputs := core.inputs.map ({ · with feed := none }) },
        fabric.strike fun _ bell => decide (bell = core.bell)) := by
  rw [detachInputs, foldl_leave_eq, Fabric.strike_congr]
  intro id bell registered
  by_cases own : bell = core.bell
  · subst own
    rw [(connected_iff_any core id).mpr (sound.connected id registered), Bool.and_true]
  · simp [own]

end Core

namespace Stage

def cut (stage : Stage Builtin) (feeds : List FeedId) : Stage Builtin :=
  { stage with core := stage.core.cut feeds }

end Stage

namespace Pipeline

open Bench (Deed Worked)

variable {stage left : Stage Builtin} {fabric after : Fabric ω} {stages : List (Stage Builtin)}

theorem detachAll_eq (fits : Fits stage fabric) (feeds : List FeedId) :
    detachAll feeds stage fabric =
      (stage.cut feeds, fabric.strike fun id bell => decide (id ∈ feeds) && decide (bell = stage.core.bell)) := by
  induction feeds generalizing stage fabric with
  | nil =>
    rw [Fabric.strike_nothing fun _ _ _ => by simp, Stage.cut, Core.cut_nil]
    rfl
  | cons feed feeds ih =>
    have first := Core.detachFeed_eq fits.attentive.sound feed
    have next := (Builtin.handled_detachFeed stage fabric feed).fits fits
    have rest := ih next
    rw [first] at rest
    have step : detachAll (feed :: feeds) stage fabric =
        detachAll feeds { stage with core := (stage.core.detachFeed feed fabric).1 }
          (stage.core.detachFeed feed fabric).2 := rfl
    rw [step, first, rest, Fabric.strike_strike, Stage.cut, Core.cut_cut]
    congr 2
    funext id bell
    by_cases own : bell = stage.core.bell <;> simp [Core.cut, own]

/-- The stages that stay are disconnected from the given feeds, and their bells are taken off them. -/
theorem forStages_detachAll_eq (orderly : Orderly stages fabric) (feeds : List FeedId) :
    forStages (detachAll feeds) stages fabric =
      (stages.map (·.cut feeds), fabric.strike fun id bell =>
        decide (id ∈ feeds) && decide (bell ∈ stages.map fun stage => stage.core.bell)) := by
  induction stages generalizing fabric with
  | nil =>
    rw [Fabric.strike_nothing fun _ _ _ => by simp]
    rfl
  | cons stage stages ih =>
    have first := detachAll_eq (orderly.fits stage List.mem_cons_self) feeds
    have handled := (Bench.worked_detachAll feeds stage fabric).handled
    have both : Orderly ([] ++ (detachAll feeds stage fabric).1 :: stages) (detachAll feeds stage fabric).2 :=
      orderly.replace handled
    have rest := ih (both.sublist (List.sublist_cons_self ..))
    rw [first] at rest
    have step : forStages (detachAll feeds) (stage :: stages) fabric =
        ((detachAll feeds stage fabric).1 ::
          (forStages (detachAll feeds) stages (detachAll feeds stage fabric).2).1,
          (forStages (detachAll feeds) stages (detachAll feeds stage fabric).2).2) := rfl
    rw [step, first, rest, Fabric.strike_strike]
    refine Prod.ext rfl ?_
    dsimp only
    congr 1
    funext id bell
    simp [Bool.and_or_distrib_left]

theorem stop_eq (stage : Stage Builtin) (fabric : Fabric ω) :
    (stage.stop fabric).2 = fabric ∧
      (stage.stop fabric).1.core =
        { stage.core with phase := if stage.isStarted then .stopped else stage.core.phase } := by
  obtain ⟨core, body⟩ := stage
  unfold Stage.stop Stage.stopBy
  split
  next => cases body <;> exact ⟨rfl, rfl⟩
  next => exact ⟨rfl, rfl⟩

def outside (stage : Stage Builtin) : Core :=
  { stage.core with
    phase := if stage.isStarted then .stopped else stage.core.phase
    inputs := stage.core.inputs.map ({ · with feed := none }) }

theorem input?_outside (stage : Stage Builtin) (port : Nat) : (outside stage).input? port = none := by
  simp only [outside, Core.input?, List.getElem?_map]
  cases stage.core.inputs[port]? <;> rfl

theorem isStarted_outside (stage : Stage Builtin) : (outside stage).isStarted = false := by
  simp only [outside, Core.isStarted]
  split
  next => rfl
  next off => exact Bool.eq_false_iff.mpr off

/-- A stage that is stopped and then disconnected leaves the feeds without its bell. -/
theorem loosen_eq (fits : Fits stage fabric) :
    (stage.stop fabric).1.core.detachInputs (stage.stop fabric).2 =
      (outside stage, fabric.strike fun _ bell => decide (bell = stage.core.bell)) := by
  obtain ⟨same, core⟩ := stop_eq stage fabric
  have stopped := (Worked.deed stage fabric (.hand .stop)).handled.fits fits
  have sound := stopped.attentive.sound
  simp only [Deed.perform, Bench.Job.perform] at sound
  rw [Core.detachInputs_eq sound, same, core]
  rfl

/-- A stage was taken out of a pipeline, and nothing but that. -/
structure Removed (pipeline : Pipeline Builtin) (fabric : Fabric ω) (id : String) (stage : Stage Builtin)
    (left : Pipeline Builtin) (after : Fabric ω) : Prop where
  stopped : stage.isStarted = false
  disconnected : ∀ port, stage.core.input? port = none
  unregistered : ∀ feed, after.registrations stage.core.bell feed = 0
  unfed : ∀ other ∈ left.stages, ∀ port feed,
    other.core.input? port = some feed → feed ∉ stage.core.outputFeeds
  /-- Of the stage that had the id, only the phase and the inputs are changed; the stages before it and behind it
  only lose the inputs that it fed. -/
  stages : ∃ before old later, pipeline.stages = before ++ old :: later ∧ old.id = id ∧
    stage.core = outside old ∧ left = { pipeline with stages := (before ++ later).map (·.cut stage.core.outputFeeds) }
  feeds : after = fabric.strike fun feed bell => decide (bell = stage.core.bell) ||
    decide (feed ∈ stage.core.outputFeeds) && decide (bell ∈ left.stages.map fun other => other.core.bell)

theorem removed_of_ok {pipeline left : Pipeline Builtin} {id : String} (orderly : Orderly pipeline.stages fabric)
    (done : pipeline.remove id fabric = .ok (stage, left, after)) :
    Removed pipeline fabric id stage left after := by
  obtain ⟨before, old, later, whole, there, rfl, rfl, rfl⟩ := Pipeline.remove_ok done
  -- First the stage is stopped and disconnected, and then the others are disconnected from it.
  have out := loosen_eq (orderly.fits old (whole ▸ List.mem_append_cons_self))
  have handled := (Bench.worked_loosen old fabric).handled
  rw [whole] at orderly
  have others := (orderly.replace handled).sublist ((List.sublist_cons_self ..).append_left _)
  simp only [out] at others ⊢
  have cuts := forStages_detachAll_eq others (outside old).outputFeeds
  simp only [Core.outputFeeds] at cuts
  simp only [cuts]
  refine ⟨isStarted_outside old, input?_outside old, fun feed => ?_, fun other member port feed here => ?_,
    ⟨before, old, later, whole, there, rfl, rfl⟩, ?_⟩
  · rw [Fabric.strike_strike, Fabric.registrations_strike]
    simp [outside]
  · obtain ⟨stage, -, rfl⟩ := List.mem_map.mp member
    exact Core.not_mem_of_input?_cut here
  · rw [Fabric.strike_strike, List.map_map]
    rfl

/-- Whatever was done on a bench, every stage there, held or in the pipeline, has a bell of its own that is shown
under its id, and that is registered once on the feed of its input and nowhere else. A stage that is taken out of the
pipeline comes back stopped, without inputs and registered nowhere; no stage that stays is fed by it any more. Beside
that nothing changes, neither in the pipeline nor on the feeds nor among the bells. -/
theorem wiring_exact (surroundings : ω) (past : List Bench.Action) :
    let bench := (Bench.empty surroundings : Bench ω Builtin).run past
    (bench.stages.map fun stage => stage.core.bell).Nodup ∧
    (∀ stage ∈ bench.stages, bench.fabric.owner? stage.core.bell = some stage.id ∧
      ∀ feed, bench.fabric.registrations stage.core.bell feed =
        if stage.core.input? 0 = some feed then 1 else 0) ∧
    ∀ id stage left after, bench.pipeline.remove id bench.fabric = .ok (stage, left, after) →
      Removed bench.pipeline bench.fabric id stage left after := by
  intro bench
  obtain ⟨orderly, named⟩ := Bench.holds_run Bench.named_invariant surroundings (nofun) past
  refine ⟨orderly.distinct, fun stage member => ⟨(named stage member).owner, fun feed => ?_⟩,
    fun id stage left after done => ?_⟩
  · have fits := orderly.fits stage member
    have once := fits.attentive.sound.once feed
    by_cases here : stage.core.input? 0 = some feed
    · have registered := (fits.attentive.registered_iff (fits.rooted feed ⟨0, here⟩)).mpr here
      rw [if_pos here]
      exact Nat.le_antisymm once registered
    · rw [if_neg here]
      refine Nat.eq_zero_of_not_pos fun registered => here ?_
      have present := fits.rooted feed (fits.attentive.sound.connected feed registered)
      exact (fits.attentive.registered_iff present).mp registered
  · exact removed_of_ok (orderly.sublist (List.sublist_append_right ..)) done

/-- A tracker that feeds itself and another one, and that was taken out and put back before; a third one has the
masks. -/
def hub : List Bench.Action :=
  [.create "squares" SquareSource.name, .handle "squares" (.write "id" (.text "squares")),
    .handle "squares" (.write "width" (.int 8)), .handle "squares" (.write "height" (.int 8)),
    .handle "squares" (.write "size" (.int 4)), .handle "squares" (.write "blobs" (.int 0)),
    .create "hub" BlobTracker.name, .handle "hub" (.write "id" (.text "hub")),
    .create "left" BlobTracker.name, .handle "left" (.write "id" (.text "left")),
    .create "right" BlobTracker.name, .handle "right" (.write "id" (.text "right")),
    .place "squares", .place "right", .place "hub", .place "left",
    .connect "squares" 0 "hub" 0, .takeBack "hub", .place "hub",
    .connect "squares" 0 "right" 0, .connect "hub" 0 "left" 0, .connect "hub" 0 "hub" 0, .start, .tick]

def hubbed : Bench Unit Builtin := (Bench.empty ()).run hub

theorem wiring_exact_hub :
    hubbed.fabric.observerNames ⟨0⟩ = ["right"] ∧ hubbed.fabric.observerNames ⟨1⟩ = ["left", "hub"] ∧
    ∃ stage left after, hubbed.pipeline.remove "hub" hubbed.fabric = .ok (stage, left, after) ∧
      Removed hubbed.pipeline hubbed.fabric "hub" stage left after ∧
      left.stages.map (fun other => (other.id, other.isStarted, other.core.input? 0)) =
        [("squares", true, none), ("right", true, some ⟨0⟩), ("left", true, none)] ∧
      after.observerNames ⟨0⟩ = ["right"] ∧ after.observerNames ⟨1⟩ = [] := by
  have outcome : ((hubbed.pipeline.remove "hub" hubbed.fabric).toOption.map fun (_, left, after) =>
      (left.stages.map (fun other => (other.id, other.isStarted, other.core.input? 0)),
        after.observerNames ⟨0⟩, after.observerNames ⟨1⟩)) =
      some ([("squares", true, none), ("right", true, some ⟨0⟩), ("left", true, none)], ["right"], []) := by
    decide +kernel
  cases done : hubbed.pipeline.remove "hub" hubbed.fabric with
  | error => rw [done] at outcome; cases outcome
  | ok removed =>
    obtain ⟨stage, left, after⟩ := removed
    have removal := (wiring_exact () hub).2.2 "hub" stage left after done
    rw [done] at outcome
    simp only [Except.toOption, Option.map_some, Option.some.injEq, Prod.mk.injEq] at outcome
    exact ⟨by decide +kernel, by decide +kernel, stage, left, after, rfl, removal, outcome⟩

end Pipeline

end TouchTracking
