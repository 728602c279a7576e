import TouchTracking.Proofs.Attention

/-! When a tracker stage steps. News is a payload accepted on the feed that the input is connected to at that
moment, or a connection to a feed that holds a payload already. The bell rings exactly as long as there is news
that no poll has answered since, whatever happens in between: pushes, connections, stops and starts. So no news is
lost, and nothing else makes the stage step. -/
namespace TouchTracking.BlobTracker.World

open Wiring (Attentive)
open Fabric (Fed)

variable {ω : Type}

def wiring (world : World ω) : Wiring ω := ⟨world.stage.core, world.fabric⟩

def isRinging (world : World ω) : Bool := world.fabric.isRinging world.stage.core.bell

def Delivers (world : World ω) (deed : Deed) : Prop :=
  ∃ id, world.stage.core.input? 0 = some id ∧
    world.fabric.sequence id < (world.act deed).fabric.sequence id

def Finds (world : World ω) : Deed → Prop
  | .connect feed port => world.stage.core.wiringError? feed port world.fabric = none ∧
      (feed.bind world.fabric.slot?).isSome = true
  | _ => False

def Brings (world : World ω) (deed : Deed) : Prop := world.Delivers deed ∨ world.Finds deed

def Answers (world : World ω) : Deed → Prop
  | .poll => world.stage.isStarted = true ∧ world.isRinging = true
  | _ => False

/-- None of the deeds is a poll that answers. -/
def Ignores (world : World ω) : List Deed → Prop
  | [] => True
  | deed :: deeds => ¬ world.Answers deed ∧ Ignores (world.act deed) deeds

/-- Some deed brought news that no poll has answered since. -/
def Unanswered (world : World ω) : List Deed → Prop
  | [] => False
  | deed :: deeds =>
    world.Brings deed ∧ (world.act deed).Ignores deeds ∨ Unanswered (world.act deed) deeds

section Decisions

variable (world : World ω)

instance (deed : Deed) : Decidable (world.Delivers deed) :=
  decidable_of_iff (∃ id ∈ world.stage.core.input? 0,
    world.fabric.sequence id < (world.act deed).fabric.sequence id) Iff.rfl

instance : (deed : Deed) → Decidable (world.Finds deed)
  | .connect .. => inferInstanceAs (Decidable (_ ∧ _))
  | .push .. | .poll | .update | .start | .stop | .detachInputs | .detachFeed _ | .write .. =>
    inferInstanceAs (Decidable False)

instance (deed : Deed) : Decidable (world.Brings deed) := inferInstanceAs (Decidable (_ ∨ _))

instance : (deed : Deed) → Decidable (world.Answers deed)
  | .poll => inferInstanceAs (Decidable (_ ∧ _))
  | .push .. | .update | .start | .stop | .connect .. | .detachInputs | .detachFeed _ | .write .. =>
    inferInstanceAs (Decidable False)

instance decidableIgnores (world : World ω) : (deeds : List Deed) → Decidable (world.Ignores deeds)
  | [] => inferInstanceAs (Decidable True)
  | deed :: deeds =>
    have := decidableIgnores (world.act deed) deeds
    inferInstanceAs (Decidable (_ ∧ _))

instance decidableUnanswered (world : World ω) :
    (deeds : List Deed) → Decidable (world.Unanswered deeds)
  | [] => inferInstanceAs (Decidable False)
  | deed :: deeds =>
    have := decidableUnanswered (world.act deed) deeds
    inferInstanceAs (Decidable (_ ∨ _))

end Decisions

/-- What a deed does to the bell and to what the feeds hold. -/
structure Heeded (world : World ω) (deed : Deed) : Prop where
  attentive : Attentive (world.act deed).wiring
  counted : ∀ id, world.fabric.sequence id ≤ (world.act deed).fabric.sequence id
  kept : ∀ id, (world.act deed).fabric.sequence id = world.fabric.sequence id →
    (world.act deed).fabric.content? id = world.fabric.content? id
  rings : (world.act deed).isRinging = true ↔
    world.Brings deed ∨ world.isRinging = true ∧ ¬ world.Answers deed

section Deeds

variable {world : World ω} {deed : Deed}

section Kept

variable (same : ∀ id, (world.act deed).fabric.content? id = world.fabric.content? id)
include same

theorem sequence_eq (id : FeedId) :
    (world.act deed).fabric.sequence id = world.fabric.sequence id := by
  rw [Fabric.sequence, same, Fabric.sequence]

theorem not_delivers : ¬ world.Delivers deed := by
  rintro ⟨id, -, raised⟩
  exact Nat.lt_irrefl _ (sequence_eq same id ▸ raised)

end Kept

/-- A deed that does not touch the bell. -/
theorem heeded_of_quiet (attentive : Attentive (world.act deed).wiring)
    (same : ∀ id, (world.act deed).fabric.content? id = world.fabric.content? id)
    (quiet : (world.act deed).isRinging = world.isRinging) (unanswered : ¬ world.Answers deed)
    (unfound : ¬ world.Finds deed) : Heeded world deed where
  attentive := attentive
  counted id := Nat.le_of_eq (sequence_eq same id).symm
  kept id _ := same id
  rings := by simp [quiet, Brings, not_delivers same, unanswered, unfound]

theorem heeded_of_idle (attentive : Attentive world.wiring) (idle : world.act deed = world)
    (unanswered : ¬ world.Answers deed) (unfound : ¬ world.Finds deed) : Heeded world deed :=
  heeded_of_quiet (by rw [idle]; exact attentive) (fun _ => by rw [idle]) (by rw [idle]) unanswered unfound

/-- A deed that does no more than pushes do. -/
theorem heeded_of_fed (attentive : Attentive world.wiring) {feeds : List FeedId}
    (alike : Core.Alike world.stage.core (world.act deed).stage.core)
    (fed : Fed feeds [] world.fabric (world.act deed).fabric) (unanswered : ¬ world.Answers deed)
    (unfound : ¬ world.Finds deed) : Heeded world deed where
  attentive := attentive.fed alike fed
  counted := fed.counted
  kept := fed.kept
  rings := by
    have rung : (world.act deed).isRinging = true ↔ world.isRinging = true ∨ world.Delivers deed := by
      rw [isRinging, alike.bell]
      exact attentive.isRinging_fed fed List.not_mem_nil
    simp [rung, Brings, unanswered, unfound, or_comm]

theorem heeded_push (attentive : Attentive world.wiring) (feed : FeedId) (payload : Payload) :
    Heeded world (.push feed payload) := by
  cases outcome : world.fabric.push feed payload with
  | error =>
    exact heeded_of_idle attentive (by simp only [act, outcome]) id id
  | ok next =>
    have after : world.act (.push feed payload) = { world with fabric := next } := by
      simp only [act, outcome]
    have fed : Fed [feed] [] world.fabric (world.act (.push feed payload)).fabric :=
      after ▸ Fabric.fed_push outcome
    exact heeded_of_fed attentive (after ▸ .refl _) fed id id

theorem poll_of_answers (answers : world.Answers .poll) :
    Behaviour.poll world.stage world.fabric =
      let outcome := update world.stage (world.fabric.silence world.stage.core.bell)
      Stage.settle (outcome.1.map fun () => true, outcome.2) := by
  rw [poll_eq, if_pos (by simpa [Answers, isRinging] using answers)]

theorem poll_of_not_answers (unanswered : ¬ world.Answers .poll) :
    Behaviour.poll world.stage world.fabric = (false, world.stage, world.fabric) := by
  rw [poll_eq, if_neg (by simpa [Answers, isRinging] using unanswered)]

/-- A poll that answers silences the bell and then does what an update does. -/
theorem act_poll (answers : world.Answers .poll) :
    Fed world.stage.core.outputFeeds [] (world.fabric.silence world.stage.core.bell)
        (world.act .poll).fabric ∧
      Core.Alike world.stage.core (world.act .poll).stage.core := by
  have polled := poll_of_answers answers
  obtain ⟨fed, alike, -⟩ := update_spec world.stage (world.fabric.silence world.stage.core.bell)
  have after : (world.act .poll).fabric =
      (update world.stage (world.fabric.silence world.stage.core.bell)).2.2 := by
    simp only [act, polled]
    exact fabric_settle ..
  refine ⟨after ▸ fed, ?_⟩
  simp only [act, polled]
  exact alike.trans (Stage.settle_spec ..).1

theorem act_poll_eq_self (unanswered : ¬ world.Answers .poll) : world.act .poll = world := by
  simp only [act, poll_of_not_answers unanswered]

/-- The bell is silent when the update begins, so that it rings again only if the update itself delivers. -/
theorem heeded_poll (attentive : Attentive world.wiring) : Heeded world .poll := by
  by_cases answers : world.Answers .poll
  · obtain ⟨fed, alike⟩ := act_poll answers
    have silent : Fed [] [world.stage.core.bell] world.fabric (world.fabric.silence world.stage.core.bell) :=
      Fabric.fed_silence ..
    have silenced : Attentive ⟨world.stage.core, world.fabric.silence world.stage.core.bell⟩ :=
      attentive.fed (.refl _) silent
    have hushed : (world.fabric.silence world.stage.core.bell).isRinging world.stage.core.bell = false := by
      simp [Fabric.isRinging_silence]
    refine ⟨silenced.fed alike fed, fed.counted, fed.kept, ?_⟩
    have rung : (world.act .poll).isRinging = true ↔ world.Delivers .poll := by
      rw [isRinging, alike.bell, silenced.isRinging_fed fed List.not_mem_nil, hushed]
      exact or_iff_right Bool.false_ne_true
    simp [rung, Brings, Finds, answers]
  · exact heeded_of_idle attentive (act_poll_eq_self answers) answers id

theorem heeded_connect (attentive : Attentive world.wiring) (feed : Option FeedId) (port : Nat) :
    Heeded world (.connect feed port) := by
  cases outcome : world.stage.core.setInput feed port world.fabric with
  | error refusal =>
    exact heeded_of_idle attentive (by simp only [act, outcome]) id
      fun finds => Core.setInput_error outcome finds.1
  | ok connected =>
    obtain ⟨core, fabric⟩ := connected
    have after : world.act (.connect feed port) = ⟨{ world.stage with core }, fabric⟩ := by
      simp only [act, outcome]
    have wired : (world.act (.connect feed port)).wiring = world.wiring.act (.connect feed port) := by
      simp only [after, wiring, Wiring.act, outcome]
    have unchanged : ∀ id, (world.act (.connect feed port)).fabric.content? id = world.fabric.content? id := by
      rw [after]
      exact Core.content?_setInput outcome
    have undelivered := not_delivers unchanged
    obtain ⟨accepted, -, rfl, rfl⟩ := Core.setInput_ok outcome
    refine ⟨by rw [wired]; exact attentive.act _, fun id => Nat.le_of_eq (sequence_eq unchanged id).symm,
      fun id _ => unchanged id, ?_⟩
    have here : (world.stage.core.leave (world.stage.core.input? port) world.fabric).hasBell
        world.stage.core.bell = true := by
      rw [Core.hasBell_leave]
      exact attentive.known
    have held : (world.stage.core.leave (world.stage.core.input? port) world.fabric).slot? =
        world.fabric.slot? := by
      funext id
      rw [Fabric.slot?, Core.content?_leave, Fabric.slot?]
    rw [after, isRinging, Core.isRinging_join, Core.isRinging_leave, here]
    simp only [held, true_and, Brings, undelivered, false_or, Finds, accepted, Answers, not_false_eq_true, and_true]
    rw [or_comm, isRinging]

theorem heeded (attentive : Attentive world.wiring) (deed : Deed) : Heeded world deed := by
  cases deed with
  | push feed payload => exact heeded_push attentive feed payload
  | poll => exact heeded_poll attentive
  | update =>
    obtain ⟨fed, alike, -⟩ := update_spec world.stage world.fabric
    exact heeded_of_fed attentive alike fed id id
  | start =>
    have unchanged : (world.act .start).fabric = world.fabric := (start_spec ..).2
    have fed : Fed [] [] world.fabric (world.act .start).fabric := unchanged ▸ .refl _
    exact heeded_of_fed attentive (alike_start ..) fed id id
  | stop =>
    have unchanged : (world.act .stop).fabric = world.fabric := fabric_stop ..
    have fed : Fed [] [] world.fabric (world.act .stop).fabric := unchanged ▸ .refl _
    exact heeded_of_fed attentive (alike_stop ..) fed id id
  | connect feed port => exact heeded_connect attentive feed port
  | detachInputs =>
    exact heeded_of_quiet (attentive.act .detachInputs) (fun _ => Core.content?_detachInputs ..)
      (Core.isRinging_foldl_leave ..) id id
  | detachFeed feed =>
    have bell : (world.act (.detachFeed feed)).stage.core.bell = world.stage.core.bell :=
      Core.bell_detachFeed ..
    refine heeded_of_quiet (attentive.act (.detachFeed feed)) (fun _ => Core.content?_detachFeed ..) ?_ id id
    rw [isRinging, bell]
    exact Core.isRinging_detachFeed ..
  | write name value =>
    obtain ⟨alike, -, fed⟩ := Core.setProperty_spec world.stage.core name value world.fabric
    exact heeded_of_fed attentive alike fed id id

end Deeds

/-- The bell rings after a run if there is news in it that is unanswered, or if it rang before and no poll
answered. -/
theorem run_heeded {world : World ω} (attentive : Attentive world.wiring) (deeds : List Deed) :
    Attentive (world.run deeds).wiring ∧
      ((world.run deeds).isRinging = true ↔
        world.Unanswered deeds ∨ world.isRinging = true ∧ world.Ignores deeds) := by
  induction deeds generalizing world with
  | nil => exact ⟨attentive, by simp [run, Unanswered, Ignores]⟩
  | cons deed deeds ih =>
    have step := heeded attentive deed
    obtain ⟨after, rings⟩ := ih step.attentive
    refine ⟨after, ?_⟩
    rw [run, rings, step.rings, Unanswered, Ignores, or_and_right, and_assoc, or_left_comm, or_assoc]

/-- What a feed holds stays as long as its count does. -/
theorem run_kept {world : World ω} (attentive : Attentive world.wiring) (deeds : List Deed) (id : FeedId) :
    world.fabric.sequence id ≤ (world.run deeds).fabric.sequence id ∧
      ((world.run deeds).fabric.sequence id = world.fabric.sequence id →
        (world.run deeds).fabric.content? id = world.fabric.content? id) := by
  induction deeds generalizing world with
  | nil => exact ⟨Nat.le_refl _, fun _ => rfl⟩
  | cons deed deeds ih =>
    have step := heeded attentive deed
    obtain ⟨counted, kept⟩ := ih step.attentive
    have first := step.counted id
    refine ⟨Nat.le_trans first counted, fun same => ?_⟩
    rw [run] at same ⊢
    rw [kept (by omega), step.kept id (by omega)]

/-- A new stage hears nothing yet, and its bell is silent. -/
theorem attentive_make {fabric : Fabric ω} (closed : fabric.Closed) :
    Attentive (make fabric).wiring ∧ (make fabric).isRinging = false := by
  have few : [maskPort].length ≤ 1 := Nat.le_refl 1
  have fresh := Attentive.make closed info few [annotatedPort, touchesPort]
  have alike := Core.alike_foldl_register properties
    (Core.make info [maskPort] [annotatedPort, touchesPort] fabric).1
  refine ⟨fresh.congr alike rfl (fun _ _ => id) fun _ => rfl, ?_⟩
  have missing : fabric.hasBell ⟨fabric.bells.size⟩ = false := by
    simp [Fabric.hasBell, Fabric.bell?]
  have still := Core.isRinging_make info [maskPort] [annotatedPort, touchesPort] fabric ⟨fabric.bells.size⟩
  have new : (make fabric).stage.core.bell = ⟨fabric.bells.size⟩ := alike.bell
  rw [isRinging, new]
  exact still.trans (Fabric.isRinging_of_not_hasBell missing)

/-- From the creation of the stage on, the bell rings just as long as there is unanswered news. -/
theorem isRinging_run_make {fabric : Fabric ω} (closed : fabric.Closed) (past : List Deed) :
    ((make fabric).run past).isRinging = true ↔ (make fabric).Unanswered past := by
  obtain ⟨attentive, silent⟩ := attentive_make closed
  rw [(run_heeded attentive past).2, silent]
  exact or_iff_left fun both => Bool.false_ne_true both.1

section History

variable {world : World ω}

theorem unanswered_append {before after : List Deed} {deed : Deed}
    (brings : (world.run before).Brings deed)
    (ignores : ((world.run before).act deed).Ignores after) :
    world.Unanswered (before ++ deed :: after) := by
  induction before generalizing world with
  | nil => exact .inl ⟨brings, ignores⟩
  | cons first before ih => exact .inr (ih brings ignores)

theorem ignores_of_stopped {deeds : List Deed}
    (stopped : ∀ before after, deeds = before ++ .poll :: after →
      (world.run before).stage.isStarted = false) : world.Ignores deeds := by
  induction deeds generalizing world with
  | nil => trivial
  | cons deed deeds ih =>
    refine ⟨fun answers => ?_, ih fun before after split => stopped (deed :: before) after (by rw [split]; rfl)⟩
    cases deed with
    | poll => exact Bool.false_ne_true ((stopped [] deeds rfl).symm.trans answers.1)
    | _ => exact answers

theorem slot?_act_push {feed : FeedId} {payload : Payload}
    (raised : world.fabric.sequence feed < (world.act (.push feed payload)).fabric.sequence feed) :
    (world.act (.push feed payload)).fabric.slot? feed = some payload := by
  cases outcome : world.fabric.push feed payload with
  | error =>
    have same : world.act (.push feed payload) = world := by simp only [act, outcome]
    rw [same] at raised
    exact absurd raised (Nat.lt_irrefl _)
  | ok next =>
    have after : (world.act (.push feed payload)).fabric = next := by simp only [act, outcome]
    rw [after] at raised ⊢
    have present := ((Fabric.lt_sequence_push outcome feed).mp raised).2
    obtain ⟨content, held⟩ := Option.isSome_iff_exists.mp present
    rw [Fabric.slot?, Fabric.content?_push outcome, if_pos rfl, held]
    rfl

/-- A poll delivers to the stage itself only where an output is fed back. -/
theorem fedBack_of_delivers (delivers : world.Delivers .poll) :
    ∃ id ∈ world.stage.core.outputFeeds, world.stage.core.input? 0 = some id := by
  obtain ⟨id, connected, raised⟩ := delivers
  refine ⟨id, ?_, connected⟩
  by_cases answers : world.Answers .poll
  · obtain ⟨fed, -⟩ := act_poll answers
    exact fed.mem_of_raised raised
  · rw [act_poll_eq_self answers] at raised
    exact absurd raised (Nat.lt_irrefl _)

end History

theorem update_of_mask {stage synced : Stage Body} {fabric : Fabric ω} {mask : Raster.Image} {touches : List Touch}
    {tracker : Tracker} (shown : mask? stage fabric = some mask) (gray : mask.channels = 1)
    (sync : syncParams stage = .ok synced) (processed : synced.body.process mask = .ok (touches, tracker)) :
    (update stage fabric).2.1.body.toTracker = tracker ∧
      ∃ picture, publish synced.core picture touches fabric = ((update stage fabric).1, (update stage fabric).2.2) := by
  simp only [update, updateBy, shown, if_pos gray, track, sync, processed]
  exact ⟨trivial, _, rfl⟩

/-- A poll runs the update just when the stage is started and there is news that no poll has answered since,
and it does nothing otherwise. The update sees what the connected feed shows, which is the payload of the last
accepted push there. News stays unanswered as long as the stage is only polled while it is stopped; and a poll of
the started stage leaves none, unless an output of the stage is fed back to its input. What the update makes of the
tracker is what one step on the mask shown makes of it, and what it publishes is the touches of that step. -/
theorem poll_answers_news {fabric : Fabric ω} (closed : fabric.Closed) (past : List Deed) :
    let start := make fabric
    let world := start.run past
    let silenced := world.fabric.silence world.stage.core.bell
    let outcome := update world.stage silenced
    ((world.stage.isStarted = true ∧ start.Unanswered past →
        Behaviour.poll world.stage world.fabric =
          Stage.settle (outcome.1.map fun () => true, outcome.2)) ∧
      (¬ (world.stage.isStarted = true ∧ start.Unanswered past) →
        Behaviour.poll world.stage world.fabric = (false, world.stage, world.fabric))) ∧
    world.stage.core.payload? 0 silenced = (world.stage.core.input? 0).bind world.fabric.slot? ∧
    (∀ before feed payload after, past = before ++ .push feed payload :: after →
      let pushed := (start.run before).act (.push feed payload)
      (start.run before).fabric.sequence feed < pushed.fabric.sequence feed →
      world.fabric.sequence feed = pushed.fabric.sequence feed →
      world.fabric.slot? feed = some payload) ∧
    (∀ before deed after, past = before ++ deed :: after → (start.run before).Brings deed →
      (∀ middle rest, after = middle ++ .poll :: rest →
        (((start.run before).act deed).run middle).stage.isStarted = false) →
      start.Unanswered past) ∧
    (world.stage.isStarted = true → start.Unanswered (past ++ [.poll]) →
      ∃ id ∈ world.stage.core.outputFeeds, world.stage.core.input? 0 = some id) ∧
    (∀ mask synced touches tracker, world.stage.core.payload? 0 silenced = some (.image mask) → mask.channels = 1 →
      syncParams world.stage = .ok synced → synced.body.process mask = .ok (touches, tracker) →
      outcome.2.1.body.toTracker = tracker ∧
        ∃ picture, publish synced.core picture touches silenced = (outcome.1, outcome.2.2)) := by
  intro start world silenced outcome
  have rings : world.isRinging = true ↔ start.Unanswered past := isRinging_run_make closed past
  obtain ⟨attentive, -⟩ := attentive_make closed
  have polled := poll_eq world.stage world.fabric
  refine ⟨⟨fun news => ?_, fun idle => ?_⟩, Core.payload?_eq_bind .., ?_, ?_, fun started news => ?_,
    fun mask synced touches tracker shown gray sync processed => ?_⟩
  · rw [polled, if_pos]
    rw [← rings] at news
    exact Bool.and_eq_true_iff.mpr news
  · rw [polled, if_neg]
    rw [← rings] at idle
    exact fun both => idle (Bool.and_eq_true_iff.mp both)
  · rintro before feed payload after rfl pushed raised same
    have later : world = pushed.run after := run_append ..
    have reached := (heeded (run_heeded attentive before).1 (.push feed payload)).attentive
    have kept := (run_kept reached after feed).2 (later ▸ same)
    rw [later, Fabric.slot?, kept]
    exact slot?_act_push raised
  · rintro before deed after rfl brings stopped
    exact unanswered_append brings (ignores_of_stopped stopped)
  · have after : start.run (past ++ [.poll]) = world.act .poll := run_append ..
    rw [← isRinging_run_make closed, after, (heeded (run_heeded attentive past).1 .poll).rings] at news
    rcases news with (delivers | finds) | ⟨ringing, unanswered⟩
    · exact fedBack_of_delivers delivers
    · exact finds.elim
    · exact absurd ⟨started, ringing⟩ unanswered
  · exact update_of_mask (by rw [mask?, shown]; rfl) gray sync processed

/-- A mask is answered; then the stage is stopped, and of what comes meanwhile two masks are accepted on the
connected feed before the stage starts again. -/
def interrupted : List Deed :=
  [.connect (some ⟨0⟩) 0, .start, .push ⟨0⟩ (.image (.blank 4 4 1)), .poll, .stop,
    .push ⟨0⟩ (.image (.blank 6 6 1)), .push ⟨1⟩ (.image (.blank 7 7 1)), .push ⟨0⟩ (.touches []),
    .push ⟨0⟩ (.image (.blank 5 5 1)), .poll, .start]

theorem poll_answers_news_interrupted :
    let start := make Wiring.twoFeeds
    let world := start.run interrupted
    let silenced := world.fabric.silence world.stage.core.bell
    let outcome := update world.stage silenced
    Wiring.twoFeeds.Closed ∧ world.stage.isStarted = true ∧ start.Unanswered interrupted ∧
    Behaviour.poll world.stage world.fabric =
      Stage.settle (outcome.1.map fun () => true, outcome.2) ∧
    world.stage.core.payload? 0 silenced = some (.image (.blank 5 5 1)) ∧
    ¬ start.Unanswered (interrupted ++ [.poll]) := by
  have closed : Wiring.twoFeeds.Closed := by decide
  have started : ((make Wiring.twoFeeds).run interrupted).stage.isStarted = true := by decide +kernel
  have connected : ((make Wiring.twoFeeds).run interrupted).stage.core.input? 0 = some ⟨0⟩ := by
    decide +kernel
  have waiting : (make Wiring.twoFeeds).Unanswered interrupted := by decide +kernel
  obtain ⟨⟨answered, -⟩, shown, newest, -, done, -⟩ := poll_answers_news closed interrupted
  refine ⟨closed, started, waiting, answered ⟨started, waiting⟩, ?_, fun again => ?_⟩
  · rw [shown, connected]
    exact newest (interrupted.take 8) ⟨0⟩ (.image (.blank 5 5 1)) [.poll, .start] rfl
      (by decide +kernel) (by decide +kernel)
  · obtain ⟨id, own, fedBack⟩ := done started again
    rw [connected, Option.some.injEq] at fedBack
    subst fedBack
    exact absurd own (by decide +kernel)

end TouchTracking.BlobTracker.World
