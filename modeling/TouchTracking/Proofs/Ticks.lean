import TouchTracking.Proofs.Benches

/-! One tick of a pipeline in which every connection runs forward. The stages take their turns in order, and what
one of them pushes only reaches those whose turns are still to come: so each has seen the newest of everything
when the tick is over, and none that goes on is left with its bell ringing. -/
namespace TouchTracking

open Builtin (Fits Stepped)
open Fabric (Fed)

namespace Pipeline

section Schedule

variable {ω σ : Type} [Behaviour ω σ]

/-- The stages of a tick, each with the fabric that it finds when its turn comes. -/
def schedule : List (Stage σ) → Fabric ω → List (Stage σ × Fabric ω)
  | [], _ => []
  | stage :: rest, fabric => (stage, fabric) :: schedule rest (turn stage fabric).2.2

/-- Every stage has one turn, whatever the others do in theirs. -/
theorem map_fst_schedule (stages : List (Stage σ)) (fabric : Fabric ω) :
    (schedule stages fabric).map Prod.fst = stages := by
  induction stages generalizing fabric with
  | nil => rfl
  | cons stage rest ih => rw [schedule, List.map_cons, ih]

/-- A tick is the turns of its schedule. -/
theorem turns_eq_schedule (stages : List (Stage σ)) (fabric : Fabric ω) :
    let entries := schedule stages fabric
    turns stages fabric =
      (entries.countP fun entry => (turn entry.1 entry.2).1,
        entries.map fun entry => (turn entry.1 entry.2).2.1,
        entries.foldl (fun _ entry => (turn entry.1 entry.2).2.2) fabric) := by
  induction stages generalizing fabric with
  | nil => rfl
  | cons stage rest ih =>
    simp only [turns, schedule, List.map_cons, List.foldl_cons, ih, List.countP_cons]
    cases (turn stage fabric).1 <;> rfl

def Feeds (producer consumer : Stage σ) : Prop :=
  ∃ id ∈ producer.core.outputFeeds, ∃ port, consumer.core.input? port = some id

/-- No stage is fed by itself or by one that comes after it. -/
def Forward : List (Stage σ) → Prop
  | [] => True
  | first :: rest => (∀ producer ∈ first :: rest, ¬ Feeds producer first) ∧ Forward rest

instance (producer consumer : Stage σ) : Decidable (Feeds producer consumer) :=
  decidable_of_iff (∃ id ∈ producer.core.outputFeeds, consumer.core.inputs.any (·.feed == some id) = true)
    (by simp only [Feeds, Core.connected_iff_any])

instance decidableForward : (stages : List (Stage σ)) → Decidable (Forward stages)
  | [] => inferInstanceAs (Decidable True)
  | _ :: rest =>
    have := decidableForward rest
    inferInstanceAs (Decidable (_ ∧ _))

end Schedule

variable {ω : Type} {stage : Stage Builtin} {stages rest : List (Stage Builtin)} {fabric found : Fabric ω}

theorem mem_schedule {entry : Stage Builtin × Fabric ω} (member : entry ∈ schedule stages fabric) :
    entry.1 ∈ stages := by
  rw [← map_fst_schedule stages fabric]
  exact List.mem_map_of_mem member

theorem turn_of_stopped (stopped : stage.isStarted = false) :
    turn stage fabric = (false, stage, fabric) := by
  rw [turn, if_neg (by simp [stopped])]

theorem stepped_turn (fits : Fits stage fabric) (started : stage.isStarted = true) :
    ∃ quiet : Fabric ω, quiet.isRinging stage.core.bell = false ∧
      Fed [] [stage.core.bell] fabric quiet ∧
      Stepped stage quiet (turn stage fabric).2.1 (turn stage fabric).2.2 := by
  have looked : Fed [] [] fabric (takeSince stage fabric).2 := Builtin.fed_takeSince fabric stage
  have step := Builtin.stepped_poll (takeSince stage fabric).2
    (fits.spared (.refl _) rfl (looked.spares List.not_mem_nil)) started
  refine ⟨(takeSince stage fabric).2.silence stage.core.bell, by simp [Fabric.isRinging_silence], ?_, ?_⟩
  · exact (looked.mono (List.Subset.refl _) (List.nil_subset _)).trans (Fabric.fed_silence ..)
  · rw [turn, if_pos started]
    refine ⟨step.alike.trans ?_, ?_, ?_, step.fed⟩
    · simp only
      split
      · exact ⟨rfl, rfl, rfl⟩
      · exact .refl _
    · refine Eq.trans ?_ step.kind
      simp only
      split <;> rfl
    · refine fun on => step.started ?_
      simp only at on
      split at on <;> exact on

/-- Of everyone else's concern a turn does no more than push on the outputs of its stage. -/
theorem fed_turn (fits : Fits stage fabric) :
    Fed stage.core.outputFeeds [stage.core.bell] fabric (turn stage fabric).2.2 := by
  by_cases started : stage.isStarted = true
  · obtain ⟨quiet, -, silenced, step⟩ := stepped_turn fits started
    exact (silenced.mono (List.nil_subset _) (List.Subset.refl _)).trans
      (step.fed.mono (List.Subset.refl _) (List.nil_subset _))
  · rw [turn_of_stopped (Bool.eq_false_iff.mpr started)]
    exact .refl fabric

/-- After the first turn the others are as much in order as before. -/
theorem orderly_rest (orderly : Orderly (stage :: rest) fabric) : Orderly rest (turn stage fabric).2.2 := by
  have front : Orderly ([] ++ stage :: rest) fabric := orderly
  exact (front.replace (Builtin.handled_turn fabric stage)).sublist (List.sublist_cons_self ..)

theorem fed_turns (orderly : Orderly stages fabric) :
    Fed (stages.flatMap (·.core.outputFeeds)) (stages.map (·.core.bell)) fabric (turns stages fabric).2.2 := by
  induction stages generalizing fabric with
  | nil => exact .refl fabric
  | cons stage rest ih =>
    have first := fed_turn (orderly.fits stage List.mem_cons_self)
    refine (first.mono (fun id member => ?_) (fun bell member => ?_)).trans
      ((ih (orderly_rest orderly)).mono (fun id member => ?_) (List.subset_cons_self ..))
    · exact List.mem_flatMap.mpr ⟨stage, List.mem_cons_self, member⟩
    · rw [List.mem_singleton.mp member]
      exact List.mem_cons_self
    · rw [List.flatMap_cons]
      exact List.mem_append_right _ member

/-- The input of a stage hears something in the course of a tick. -/
def Hears (fabric final : Fabric ω) (stage : Stage Builtin) : Prop :=
  ∃ id, stage.core.input? 0 = some id ∧ fabric.sequence id < final.sequence id

/-- What becomes of a stage in a tick, seen from the fabric that it finds when its turn comes: whatever it is to
hear in this tick has reached it, and afterwards its bell stays silent. -/
structure Served (fabric final : Fabric ω) (stage : Stage Builtin) (found : Fabric ω) : Prop where
  fits : Fits stage found
  reached : found.isRinging stage.core.bell = true ↔
    fabric.isRinging stage.core.bell = true ∨ Hears fabric final stage
  newest : ∀ id, stage.core.input? 0 = some id → final.content? id = found.content? id
  silent : (turn stage found).2.1.isStarted = true → final.isRinging stage.core.bell = false

/-- A turn leaves the bell of a stage silent, and so it stays as long as nothing feeds the stage. -/
theorem stays_silent {feeds : List FeedId} {bells : List BellId} {final : Fabric ω} (fits : Fits stage fabric)
    (started : (turn stage fabric).2.1.isStarted = true) (later : Fed feeds bells (turn stage fabric).2.2 final)
    (apart : stage.core.bell ∉ bells)
    (unfed : ∀ id, stage.core.input? 0 = some id → id ∉ stage.core.outputFeeds ++ feeds) :
    final.isRinging stage.core.bell = false := by
  have before : stage.isStarted = true := by
    by_cases before : stage.isStarted = true
    · exact before
    · rwa [turn_of_stopped (Bool.eq_false_iff.mpr before)] at started
  obtain ⟨quiet, silent, silenced, step⟩ := stepped_turn fits before
  -- From the moment when the bell is silenced, the step and all that follows are pushes on other feeds.
  have attentive : Wiring.Attentive ⟨stage.core, quiet⟩ := fits.attentive.fed (.refl _) silenced
  have onward := (step.fed.mono (List.subset_append_left ..) (List.nil_subset _)).trans
    (later.mono (List.subset_append_right ..) (List.Subset.refl _))
  refine Bool.eq_false_iff.mpr fun ringing => ?_
  rcases (attentive.isRinging_fed onward apart).mp ringing with already | ⟨id, here, raised⟩
  · exact Bool.false_ne_true (silent.symm.trans already)
  · exact unfed id here (onward.mem_of_raised raised)

/-- The first stage is not fed in the tick, neither by itself nor by the others. -/
theorem served_first (orderly : Orderly (stage :: rest) fabric) (forward : Forward (stage :: rest)) :
    Served fabric (turns (stage :: rest) fabric).2.2 stage fabric := by
  have fits := orderly.fits stage List.mem_cons_self
  have swept := fed_turns orderly
  have unfed (id : FeedId) (here : stage.core.input? 0 = some id) :
      id ∉ (stage :: rest).flatMap (·.core.outputFeeds) := by
    intro member
    obtain ⟨producer, listed, output⟩ := List.mem_flatMap.mp member
    exact forward.1 producer listed ⟨id, output, 0, here⟩
  refine ⟨fits, ⟨.inl, ?_⟩, fun id here => swept.content?_elsewhere (unfed id here), fun started => ?_⟩
  · rintro (ringing | ⟨id, here, raised⟩)
    · exact ringing
    · exact absurd (swept.mem_of_raised raised) (unfed id here)
  · exact stays_silent fits started (fed_turns (orderly_rest orderly)) orderly.apart unfed

/-- What was pushed in a turn is heard by the stages whose turns come later. -/
theorem served_after {first : Stage Builtin} {final : Fabric ω} (orderly : Orderly (first :: rest) fabric)
    (listed : stage ∈ rest) (swept : Fed (rest.flatMap (·.core.outputFeeds)) (rest.map (·.core.bell))
      (turn first fabric).2.2 final)
    (served : Served (turn first fabric).2.2 final stage found) : Served fabric final stage found := by
  have other : stage.core.bell ∉ [first.core.bell] := by
    intro member
    exact orderly.apart (List.mem_singleton.mp member ▸ List.mem_map_of_mem listed)
  have turned := fed_turn (orderly.fits first List.mem_cons_self)
  have attentive := (orderly.fits stage (List.mem_cons_of_mem _ listed)).attentive
  refine { served with reached := ?_ }
  rw [served.reached, attentive.isRinging_fed turned other, or_assoc]
  refine or_congr_right ?_
  simp only [Hears, turned.raised_iff swept, and_or_left, exists_or]
  rfl

theorem served (orderly : Orderly stages fabric) (forward : Forward stages) :
    ∀ entry ∈ schedule stages fabric, Served fabric (turns stages fabric).2.2 entry.1 entry.2 := by
  -- The stages before the one whose turn it is are served for good; the induction is on those still to come.
  induction stages generalizing fabric with
  | nil => nofun
  | cons stage rest ih =>
    intro entry member
    rcases List.mem_cons.mp member with rfl | later
    · exact served_first orderly forward
    · have after := orderly_rest orderly
      exact served_after orderly (mem_schedule later) (fed_turns after) (ih after forward.2 entry later)

/-- What is left of a turn once the stage has taken its step: a failure is kept, a step that worked is counted. -/
def conclude {β : Type} (wrap : β → Builtin) (began : Nat) (since : Option Nat)
    (outcome : Except Failure Bool × Stage β × Fabric ω) : Bool × Stage Builtin × Fabric ω :=
  let (worked, stage, fabric) := Stage.settle outcome
  let stage := stage.mapBody wrap
  (worked, if worked then recordStep began since stage fabric else stage, fabric)

/-- The fabric in which a stage answers its news. -/
def hushed (stage : Stage Builtin) (found : Fabric ω) : Fabric ω :=
  (found.forgetSince stage.core.bell).silence stage.core.bell

theorem content?_hushed (stage : Stage Builtin) (found : Fabric ω) (id : FeedId) :
    (hushed stage found).content? id = found.content? id := rfl

/-- A source that is started asks its camera once. -/
theorem turn_of_source {source : Source SquareSource} (kind : stage.body = .inl source)
    (fits : Fits stage found) (started : stage.isStarted = true) :
    turn stage found = conclude .inl found.clock none (Source.tick ⟨stage.core, source⟩ found) := by
  obtain ⟨core, body⟩ := stage
  cases kind
  have silent := (fits.source rfl).2
  have on : (⟨core, source⟩ : Stage (Source SquareSource)).isStarted = true := started
  rw [turn, if_pos started, takeSince, if_neg (Bool.eq_false_iff.mp silent)]
  simp only [Builtin.poll_source, Hook.widen, Stage.pollOnTick, if_pos on]
  rfl

/-- A tracker that is started and has news takes one step, its bell silenced. -/
theorem turn_of_news {tracker : BlobTracker.Body} (kind : stage.body = .inr tracker)
    (started : stage.isStarted = true) (ringing : found.isRinging stage.core.bell = true) :
    let step := BlobTracker.update ⟨stage.core, tracker⟩ (hushed stage found)
    turn stage found =
      conclude .inr found.clock (found.since? stage.core.bell) (step.1.map fun () => true, step.2) := by
  obtain ⟨core, body⟩ := stage
  cases kind
  have on : (⟨core, tracker⟩ : Stage BlobTracker.Body).isStarted = true := started
  have still : (found.forgetSince core.bell).isRinging core.bell = true := by
    rw [Fabric.forgetSince, Fabric.isRinging_modifyBell, if_pos rfl]
    exact ringing
  rw [turn, if_pos started, takeSince, if_pos ringing]
  simp only [Builtin.poll_tracker, Hook.widen, Stage.pollOnNews, on, still, Bool.and_self, if_pos]
  rfl

theorem turn_of_silence {tracker : BlobTracker.Body} (kind : stage.body = .inr tracker)
    (silent : found.isRinging stage.core.bell = false) : turn stage found = (false, stage, found) := by
  obtain ⟨core, body⟩ := stage
  cases kind
  unfold turn
  split
  next =>
    rw [takeSince, if_neg (Bool.eq_false_iff.mp silent)]
    simp only [Builtin.poll_tracker, Hook.widen, Stage.pollOnNews, silent, Bool.and_false]
    rfl
  next => rfl

/-- In a tick of a pipeline whose connections run forward, whatever was done before it, every stage has one turn,
as it was when the tick began and whatever happens in the turns of the others. A tracker that is started answers
the news that it had before the tick and that which comes to it in the tick in one step, which sees what the
connected feed shows at the end; without news it does nothing. Then no bell of a started stage rings. -/
theorem poll_serves_forward (surroundings : ω) (past : List Bench.Action) :
    let bench := (Bench.empty surroundings : Bench ω Builtin).run past
    let entries := schedule bench.pipeline.stages bench.fabric
    let ticked := bench.pipeline.poll bench.fabric
    let final := ticked.2.2
    Forward bench.pipeline.stages →
    (∀ stage ∈ ticked.2.1.stages, stage.isStarted = true → final.isRinging stage.core.bell = false) ∧
    entries.map Prod.fst = bench.pipeline.stages ∧
    ticked = (entries.countP fun entry => (turn entry.1 entry.2).1,
      { bench.pipeline with stages := entries.map fun entry => (turn entry.1 entry.2).2.1 },
      entries.foldl (fun _ entry => (turn entry.1 entry.2).2.2) bench.fabric) ∧
    ∀ stage found, (stage, found) ∈ entries →
      (stage.isStarted = false → turn stage found = (false, stage, found)) ∧
      (stage.isStarted = true → ∀ source, stage.body = .inl source →
        turn stage found = conclude .inl found.clock none (Source.tick ⟨stage.core, source⟩ found)) ∧
      (stage.isStarted = true → ∀ tracker, stage.body = .inr tracker →
        let notified := bench.fabric.isRinging stage.core.bell = true ∨ Hears bench.fabric final stage
        let step := BlobTracker.update ⟨stage.core, tracker⟩ (hushed stage found)
        (notified →
          turn stage found =
            conclude .inr found.clock (found.since? stage.core.bell) (step.1.map fun () => true, step.2) ∧
          stage.core.payload? 0 (hushed stage found) = stage.core.payload? 0 final) ∧
        (¬ notified → turn stage found = (false, stage, found))) := by
  intro bench entries ticked final forward
  have orderly : Orderly bench.pipeline.stages bench.fabric :=
    (Bench.inOrder_run surroundings past).sublist (List.sublist_append_right ..)
  have served (stage : Stage Builtin) (found : Fabric ω) (member : (stage, found) ∈ entries) :
      Served bench.fabric final stage found := served orderly forward _ member
  have whole : ticked = (entries.countP fun entry => (turn entry.1 entry.2).1,
      { bench.pipeline with stages := entries.map fun entry => (turn entry.1 entry.2).2.1 },
      entries.foldl (fun _ entry => (turn entry.1 entry.2).2.2) bench.fabric) := by
    simp only [ticked, poll, turns_eq_schedule]
    rfl
  refine ⟨fun stage member started => ?_, map_fst_schedule .., whole, fun stage found member =>
    ⟨turn_of_stopped, fun started source kind => ?_, fun started tracker kind => ?_⟩⟩
  · rw [whole] at member
    obtain ⟨⟨entry, found⟩, listed, rfl⟩ := List.mem_map.mp member
    have bell := (Builtin.handled_turn found entry).bell
    exact bell ▸ (served _ _ listed).silent started
  · exact turn_of_source kind (served _ _ member).fits started
  · have reached := (served _ _ member).reached
    refine ⟨fun notified => ⟨turn_of_news kind started (reached.mpr notified), ?_⟩, fun unnotified => ?_⟩
    · -- From its turn on nothing is pushed that the stage is connected to.
      rw [Core.payload?_eq_bind, Core.payload?_eq_bind]
      refine Option.bind_congr fun id here => ?_
      rw [Fabric.slot?, Fabric.slot?, content?_hushed, (served _ _ member).newest id here]
    · exact turn_of_silence kind (Bool.eq_false_iff.mpr fun ringing => unnotified (reached.mp ringing))

/-- Squares are tracked, and the picture of that goes to a second tracker, which cannot use it and stops itself.
A third one has a mask from outside. -/
def chain : List Bench.Action :=
  [.create "squares" SquareSource.name, .handle "squares" (.write "id" (.text "squares")),
    .handle "squares" (.write "width" (.int 8)), .handle "squares" (.write "height" (.int 8)),
    .handle "squares" (.write "size" (.int 4)), .handle "squares" (.write "blobs" (.int 0)),
    .create "first" BlobTracker.name, .handle "first" (.write "id" (.text "first")),
    .create "second" BlobTracker.name, .handle "second" (.write "id" (.text "second")),
    .create "third" BlobTracker.name, .handle "third" (.write "id" (.text "third")),
    .addFeed "mask" .image, .handle "third" (.connect (some ⟨7⟩) 0),
    .place "squares", .place "first", .place "second", .place "third",
    .connect "squares" 0 "first" 0, .connect "first" 0 "second" 0,
    .start, .push ⟨7⟩ (.image (.blank 6 6 1))]

def chained : Bench Unit Builtin := (Bench.empty ()).run chain

theorem poll_serves_forward_chain :
    let entries := schedule chained.pipeline.stages chained.fabric
    let ticked := chained.pipeline.poll chained.fabric
    Forward chained.pipeline.stages ∧
    (∀ stage ∈ ticked.2.1.stages, stage.isStarted = true → ticked.2.2.isRinging stage.core.bell = false) ∧
    entries.map (·.1.id) = ["squares", "first", "second", "third"] ∧ ticked.1 = 3 ∧
    ∃ stage found tracker, (stage, found) ∈ entries ∧ stage.id = "second" ∧ stage.body = .inr tracker ∧
      chained.fabric.isRinging stage.core.bell = false ∧ Hears chained.fabric ticked.2.2 stage ∧
      (let step := BlobTracker.update ⟨stage.core, tracker⟩ (hushed stage found)
       turn stage found =
        conclude .inr found.clock (found.since? stage.core.bell) (step.1.map fun () => true, step.2)) ∧
      stage.core.payload? 0 (hushed stage found) = stage.core.payload? 0 ticked.2.2 ∧
      (turn stage found).2.1.isStarted = false := by
  have forward : Forward chained.pipeline.stages := by decide +kernel
  have all := poll_serves_forward () chain forward
  have second : ∃ entry ∈ schedule chained.pipeline.stages chained.fabric,
      entry.1.id = "second" ∧ entry.1.isStarted = true ∧ entry.1.body.isRight = true ∧
      entry.1.core.input? 0 = some ⟨1⟩ ∧ chained.fabric.isRinging entry.1.core.bell = false ∧
      (turn entry.1 entry.2).2.1.isStarted = false := by decide +kernel
  obtain ⟨⟨stage, found⟩, member, name, started, tracks, fed, still, stopped⟩ := second
  obtain ⟨tracker, kind⟩ := Sum.isRight_iff.mp tracks
  have hears : Hears chained.fabric (chained.pipeline.poll chained.fabric).2.2 stage :=
    ⟨⟨1⟩, fed, by decide +kernel⟩
  have answered := ((all.2.2.2 stage found member).2.2 started tracker kind).1 (.inr hears)
  exact ⟨forward, all.1, by decide +kernel, by decide +kernel, stage, found, tracker, member, name, kind,
    still, hears, answered.1, answered.2, stopped⟩

end Pipeline

end TouchTracking
