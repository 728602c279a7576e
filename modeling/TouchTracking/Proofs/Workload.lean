import TouchTracking.Proofs.Benches
import TouchTracking.Proofs.Outlets

/-! What a tracker stage counts as work. A poll reports work when the update ended without a failure, and an update
does so also when it found no mask to look at: the bell was rung by a payload that the input does not show any more.
So the number of steps that a pipeline records for the stage is that of the lists of touches it has published and of
the turns that it missed in this way. -/
namespace TouchTracking.BlobTracker.World

open Raster (Image)

variable {ω : Type} {world : World ω} {drawn told : FeedId}

/-- A poll would answer news, but the input shows no mask. -/
def Misses (world : World ω) : Prop := world.Answers .poll ∧ mask? world.stage world.fabric = none

instance (world : World ω) : Decidable world.Misses := inferInstanceAs (Decidable (_ ∧ _))

/-- A poll that leads to the given fabric publishes a picture and a list of touches. -/
def Issues (world : World ω) (drawn told : FeedId) (after : Fabric ω) : Prop :=
  ∃ mask, mask? world.stage world.fabric = some mask ∧
    Publishes drawn told mask (world.fabric.silence world.stage.core.bell) after

variable {after : Fabric ω}

theorem Issues.hits (issues : world.Issues drawn told after) : ¬ world.Misses := by
  obtain ⟨mask, shown, -⟩ := issues
  exact fun misses => nomatch shown.symm.trans misses.2

theorem Issues.sequence (issues : world.Issues drawn told after) (inStep : InStep world drawn told) :
    after.sequence told = world.fabric.sequence told + 1 := by
  obtain ⟨mask, -, publishes⟩ := issues
  exact (publishes.sequence inStep.hushed.outfitted).2

theorem sequence_of_feeds (kept : after.feeds = world.fabric.feeds) (id : FeedId) :
    after.sequence id = world.fabric.sequence id := by
  simp only [Fabric.sequence, Fabric.content?, Fabric.feed?, kept]

theorem not_issues_of_kept (inStep : InStep world drawn told) (kept : after.feeds = world.fabric.feeds) :
    ¬ world.Issues drawn told after := by
  intro issues
  have raised := issues.sequence inStep
  rw [sequence_of_feeds kept] at raised
  omega

/-- A poll that reports work has published, or it has missed; any other changes no feed. -/
inductive Reported (world : World ω) (drawn told : FeedId) : Bool × Stage Body × Fabric ω → Prop
  | issued {next : Stage Body} {after : Fabric ω} (issues : world.Issues drawn told after) :
      Reported world drawn told (true, next, after)
  | missed {next : Stage Body} {after : Fabric ω} (misses : world.Misses) (kept : after.feeds = world.fabric.feeds) :
      Reported world drawn told (true, next, after)
  | idle {next : Stage Body} {after : Fabric ω} (hits : ¬ world.Misses) (kept : after.feeds = world.fabric.feeds) :
      Reported world drawn told (false, next, after)

theorem reported (inStep : InStep world drawn told) (configured : world.stage.body.Configured) :
    Reported world drawn told (Behaviour.poll world.stage world.fabric) := by
  by_cases answers : world.Answers .poll
  · have answered := answered inStep.hushed.outfitted configured
    simp only [poll_of_answers answers]
    generalize update world.stage (world.fabric.silence world.stage.core.bell) = outcome at answered
    cases answered with
    | blind none => exact .missed ⟨answers, none⟩ rfl
    | refused mask shown => exact .idle (fun misses => nomatch shown.symm.trans misses.2) rfl
    | published mask shown fine next after publishes => exact .issued ⟨mask, shown, publishes⟩
  · rw [poll_of_not_answers answers]
    exact .idle (fun misses => answers misses.1) rfl

/-- A poll that reports work counts one more list of touches, unless it missed. -/
theorem Reported.counts {outcome : Bool × Stage Body × Fabric ω} (reported : Reported world drawn told outcome)
    (inStep : InStep world drawn told) :
    world.fabric.sequence told + outcome.1.toNat =
      outcome.2.2.sequence told + if world.Misses then 1 else 0 := by
  cases reported with
  | issued issues =>
    rw [if_neg issues.hits, issues.sequence inStep]
    rfl
  | missed misses kept =>
    rw [if_pos misses, sequence_of_feeds kept]
    rfl
  | idle hits kept =>
    rw [if_neg hits, sequence_of_feeds kept]
    rfl

def frames (world : World ω) : Nat := world.stage.core.stats.process.count

def turn (world : World ω) : World ω :=
  let (_, stage, fabric) := Pipeline.turn world.stage world.fabric
  ⟨stage, fabric⟩

/-- The stage with the moment of its news used up. -/
def noted (world : World ω) : World ω := ⟨world.stage, (Pipeline.takeSince world.stage world.fabric).2⟩

theorem leaves_noted (world : World ω) : Leaves world world.noted := by
  refine ⟨rfl, rfl, fun id _ => ?_, fun id _ => ?_⟩
  all_goals
    simp only [noted, Pipeline.takeSince]
    split <;> rfl

theorem misses_noted : world.noted.Misses ↔ world.Misses := by
  have shown : mask? world.noted.stage world.noted.fabric = mask? world.stage world.fabric := by
    simp only [noted, Pipeline.takeSince]
    split <;> rfl
  have ringing : world.noted.isRinging = world.isRinging := by
    simp only [noted, Pipeline.takeSince, isRinging]
    split
    next on => rw [Fabric.forgetSince, Fabric.isRinging_modifyBell, if_pos rfl]; rfl
    next => rfl
  simp only [Misses, Answers, shown, ringing]
  rfl

theorem count_recordStep {σ : Type} (began : Nat) (since : Option Nat) (stage : Stage σ) (fabric : Fabric ω) :
    (Pipeline.recordStep began since stage fabric).core.stats.process.count = stage.core.stats.process.count + 1 := by
  cases since <;> rfl

/-- A turn is a poll, and one more frame if the poll reports work. -/
theorem turn_of_started (started : world.stage.isStarted = true) :
    let polled := Behaviour.poll world.noted.stage world.noted.fabric
    world.turn.frames = world.frames + polled.1.toNat ∧
      world.turn.stage.core.outputs = polled.2.1.core.outputs ∧ world.turn.stage.body = polled.2.1.body ∧
      world.turn.fabric = polled.2.2 := by
  intro polled
  obtain ⟨_, _, same⟩ := core_poll world.noted.stage world.noted.fabric
  have count : polled.2.1.core.stats.process.count = world.frames := congrArg (·.stats.process.count) same
  have turned : world.turn = ⟨if polled.1 then Pipeline.recordStep world.fabric.clock
      (Pipeline.takeSince world.stage world.fabric).1 polled.2.1 polled.2.2 else polled.2.1, polled.2.2⟩ := by
    simp only [turn, Pipeline.turn, if_pos started]
    rfl
  rw [turned]
  cases polled.1 with
  | false => exact ⟨count, rfl, rfl, rfl⟩
  | true => exact ⟨(count_recordStep ..).trans (congrArg (· + 1) count), rfl, rfl, rfl⟩

theorem turn_of_stopped (stopped : world.stage.isStarted ≠ true) : world.turn = world := by
  simp only [turn, Pipeline.turn, if_neg stopped]

/-- The outputs count alike, and together with the turns that were missed they make up the frames. -/
structure Balanced (missed : Nat) (world : World ω) (drawn told : FeedId) : Prop where
  inStep : InStep world drawn told
  configured : world.stage.body.Configured
  frames : world.frames = world.fabric.sequence told + missed

variable {missed : Nat} {next : World ω}

theorem Balanced.aside (balanced : Balanced missed world drawn told) (leaves : Leaves world next)
    (follows : Follows world.stage.body next.stage.body) : Balanced missed next drawn told where
  inStep := balanced.inStep.leaves leaves
  configured := by
    obtain ⟨actions, same⟩ := follows
    rw [same]
    exact Tracker.run_configured balanced.configured actions
  frames := by
    have own : told ∈ world.stage.core.outputFeeds :=
      balanced.inStep.outfitted.outputs ▸ List.mem_cons_of_mem _ List.mem_cons_self
    rw [World.frames, leaves.stats, Fabric.sequence, leaves.contents told own]
    exact balanced.frames

/-- The turn counts one more frame just when it counts one more list of touches, or is missed. -/
theorem Balanced.turn (balanced : Balanced missed world drawn told) :
    Balanced (missed + if world.Misses then 1 else 0) world.turn drawn told := by
  by_cases started : world.stage.isStarted = true
  · obtain ⟨counted, outputs, body, fabric⟩ := turn_of_started started
    have noted := balanced.aside world.leaves_noted (.refl _)
    have polled := reported noted.inStep noted.configured
    have stepped : InStep (world.noted.act .poll) drawn told := inStep_act noted.inStep noted.configured nofun
    refine ⟨⟨stepped.outfitted.congr outputs fun _ _ => by rw [fabric]; rfl, ?_⟩, ?_, ?_⟩
    · rw [fabric]
      exact stepped.equal
    · rw [body]
      exact configured_run noted.configured [.poll]
    · have before := noted.frames
      have counts := polled.counts noted.inStep
      have same : world.noted.frames = world.frames := rfl
      simp only [misses_noted] at counts
      rw [counted, fabric]
      omega
  · have hits : ¬ world.Misses := fun misses => started misses.1.1
    rw [turn_of_stopped started, if_neg hits]
    exact balanced

/-- What a stage goes through in a pipeline, with the number of turns that it missed. Between its turns anything may
happen that leaves its outputs alone, and that uses the tracker inside as its owner does. -/
inductive Lived (start : World ω) : Nat → World ω → Prop
  | begun : Lived start 0 start
  | aside {missed : Nat} {world next : World ω} (lived : Lived start missed world) (leaves : Leaves world next)
      (follows : Follows world.stage.body next.stage.body) : Lived start missed next
  | turned {missed : Nat} {world : World ω} (lived : Lived start missed world) :
      Lived start (missed + if world.Misses then 1 else 0) world.turn

theorem Lived.balanced {start : World ω} (begun : Balanced 0 start drawn told) (lived : Lived start missed world) :
    Balanced missed world drawn told := by
  induction lived with
  | begun => exact begun
  | aside _ leaves follows ih => exact ih.aside leaves follows
  | turned _ ih => exact ih.turn

/-- Deeds that are no steps, and no pushes on the outputs, may happen between the turns. -/
theorem Lived.run {start : World ω} {deeds : List Deed} (lived : Lived start missed world)
    (stepless : ∀ deed ∈ deeds, deed.isStep = false)
    (foreign : ∀ feed payload, .push feed payload ∈ deeds → feed ∉ world.stage.core.outputFeeds) :
    Lived start missed (world.run deeds) := by
  induction deeds generalizing world with
  | nil => exact lived
  | cons deed deeds ih =>
    obtain ⟨first, rest⟩ := List.forall_mem_cons.mp stepless
    have leaves : Leaves world (world.act deed) := leaves_act first fun feed payload same =>
      foreign feed payload (same ▸ List.mem_cons_self)
    refine ih (lived.aside leaves (follows_act world deed)) rest fun feed payload later => ?_
    rw [Core.outputFeeds, leaves.outputs]
    exact foreign feed payload (List.mem_cons_of_mem _ later)

theorem balanced_make (fabric : Fabric ω) :
    Balanced 0 (make fabric) ⟨fabric.feeds.size⟩ ⟨fabric.feeds.size + 1⟩ where
  inStep := inStep_make fabric
  configured := Tracker.Fresh.standard.configured
  frames := by
    rw [Fabric.sequence, Fabric.content?, (feeds_make fabric).2]
    rfl

end TouchTracking.BlobTracker.World

namespace TouchTracking.Bench

open Builtin (Handled)
open BlobTracker (World Body)
open BlobTracker.World (Lived)
open Fabric (Confined)

variable {ω : Type} {start : World ω} {stage middle next : Stage Builtin} {fabric between after : Fabric ω}

/-- A stage of a bench that began so has lived ever since. -/
structure Lives (start : World ω) (stage : Stage Builtin) (fabric : Fabric ω) : Prop where
  outputs : stage.core.outputs = start.stage.core.outputs
  lived : ∃ missed body, stage.body = .inr body ∧ Lived start missed ⟨⟨stage.core, body⟩, fabric⟩

def Job.deed : Job → BlobTracker.Deed
  | .connect feed port => .connect feed port
  | .detachInputs => .detachInputs
  | .detachFeed feed => .detachFeed feed
  | .start => .start
  | .stop => .stop
  | .poll => .poll
  | .update => .update
  | .write name value => .write name value

/-- A job is the deed to the tracker inside, or it is refused. -/
theorem perform_of_tracker (core : Core) (body : Body) (fabric : Fabric ω) (job : Job) :
    let world := (⟨⟨core, body⟩, fabric⟩ : World ω).act job.deed
    job.perform ⟨core, .inr body⟩ fabric = (⟨core, .inr body⟩, fabric) ∨
      job.perform ⟨core, .inr body⟩ fabric = (world.stage.mapBody .inr, world.fabric) := by
  cases job with
  | connect feed port =>
    simp only [Job.perform, Job.deed, World.act]
    split
    next =>
      right
      cases core.setInput feed port fabric <;> rfl
    next => exact .inl rfl
  | start =>
    right
    simp only [Job.perform, Job.deed, World.act, Stage.start]
    by_cases started : (⟨core, body⟩ : Stage Body).isStarted = true
    · rw [if_pos started, if_pos (by exact started)]
      rfl
    · rw [if_neg started, if_neg (by exact started)]
      simp only [Behaviour.onStart, Hook.widen]
      generalize BlobTracker.onStart ⟨core, body⟩ fabric = outcome
      obtain ⟨result, next, after⟩ := outcome
      cases result <;> rfl
  | stop =>
    right
    simp only [Job.perform, Job.deed, World.act, Stage.stop, Stage.stopBy]
    by_cases started : (⟨core, body⟩ : Stage Body).isStarted = true
    · rw [if_pos started, if_pos (by exact started)]
      rfl
    · rw [if_neg started, if_neg (by exact started)]
      rfl
  | _ => exact .inr rfl

theorem turn_of_tracker (core : Core) (body : Body) (fabric : Fabric ω) :
    let turned := (⟨⟨core, body⟩, fabric⟩ : World ω).turn
    (Pipeline.turn (⟨core, .inr body⟩ : Stage Builtin) fabric).2 = (turned.stage.mapBody .inr, turned.fabric) := by
  simp only [World.turn, Pipeline.turn]
  by_cases started : (⟨core, body⟩ : Stage Body).isStarted = true
  · rw [if_pos started, if_pos (by exact started)]
    rw [apply_ite (Stage.mapBody Sum.inr)]
    rfl
  · rw [if_neg started, if_neg (by exact started)]
    rfl

/-- A change of other feeds than the outputs is aside of the life. -/
theorem Lives.confined {feeds : List FeedId} (lives : Lives start stage fabric)
    (present : ∀ id ∈ start.stage.core.outputFeeds, fabric.hasFeed id = true)
    (apart : ∀ id ∈ start.stage.core.outputFeeds, id ∉ feeds) (confined : Confined feeds fabric after) :
    Lives start stage after := by
  obtain ⟨missed, body, tracker, lived⟩ := lives.lived
  have own {id : FeedId} (member : id ∈ stage.core.outputFeeds) : id ∈ start.stage.core.outputFeeds := by
    rwa [Core.outputFeeds, lives.outputs, ← Core.outputFeeds] at member
  have leaves : World.Leaves ⟨⟨stage.core, body⟩, fabric⟩ ⟨⟨stage.core, body⟩, after⟩ :=
    ⟨rfl, rfl, fun id member => confined.formats id (apart id (own member)) (present id (own member)),
      fun id member => confined.contents id (apart id (own member)) (present id (own member))⟩
  exact ⟨lives.outputs, missed, body, tracker, lived.aside leaves (.refl _)⟩

theorem Lives.perform (lives : Lives start stage fabric) {job : Job} (stepless : job.deed.isStep = false) :
    Lives start (job.perform stage fabric).1 (job.perform stage fabric).2 := by
  obtain ⟨core, body⟩ := stage
  obtain ⟨missed, body, rfl, lived⟩ := lives.lived
  have outputs := (handled_perform ⟨core, .inr body⟩ fabric job).outputs.trans lives.outputs
  rcases perform_of_tracker core body fabric job with refused | performed
  · exact refused ▸ lives
  · have quiet (feed : FeedId) (payload : Payload) : job.deed ≠ .push feed payload := by cases job <;> nofun
    have deed : Lived start missed ((⟨⟨core, body⟩, fabric⟩ : World ω).run [job.deed]) :=
      lived.run (by simpa using stepless) fun feed payload pushed =>
        absurd (List.mem_singleton.mp pushed).symm (quiet feed payload)
    rw [performed] at outputs ⊢
    exact ⟨outputs, missed, _, rfl, deed⟩

theorem Lives.turn (lives : Lives start stage fabric) :
    Lives start (Pipeline.turn stage fabric).2.1 (Pipeline.turn stage fabric).2.2 := by
  have outputs := (Builtin.handled_turn fabric stage).outputs.trans lives.outputs
  obtain ⟨core, body⟩ := stage
  obtain ⟨missed, body, rfl, lived⟩ := lives.lived
  have turned := turn_of_tracker core body fabric
  generalize Pipeline.turn (⟨core, .inr body⟩ : Stage Builtin) fabric = outcome at turned outputs
  obtain ⟨worked, next, after⟩ := outcome
  cases turned
  exact ⟨outputs, _, _, rfl, lived.turned⟩

theorem Lives.lock (lives : Lives start stage fabric) :
    Lives start { stage with core := stage.core.lockId } fabric := by
  obtain ⟨missed, body, tracker, lived⟩ := lives.lived
  have outputs := (Builtin.handled_lockId fabric stage).outputs
  have stats : stage.core.lockId.stats = stage.core.stats := by
    unfold Core.lockId
    split <;> rfl
  have leaves : World.Leaves ⟨⟨stage.core, body⟩, fabric⟩ ⟨⟨stage.core.lockId, body⟩, fabric⟩ :=
    ⟨outputs, stats, fun _ _ => rfl, fun _ _ => rfl⟩
  exact ⟨outputs.trans lives.outputs, missed, body, tracker, lived.aside leaves (.refl _)⟩

/-- What may be done to a stage of the bench: the life goes on if the stage is the one that leads it. -/
structure Sustains (start : World ω) (stage : Stage Builtin) (fabric : Fabric ω) (next : Stage Builtin)
    (after : Fabric ω) : Prop where
  handled : Handled stage fabric next after
  lives : stage.core.bell = start.stage.core.bell → Lives start stage fabric → Lives start next after

theorem Sustains.refl (start : World ω) (stage : Stage Builtin) (fabric : Fabric ω) :
    Sustains start stage fabric stage fabric :=
  ⟨.refl stage fabric, fun _ => id⟩

theorem Sustains.trans (first : Sustains start stage fabric middle between)
    (second : Sustains start middle between next after) : Sustains start stage fabric next after :=
  ⟨first.handled.trans second.handled, fun own lives =>
    second.lives (first.handled.bell.trans own) (first.lives own lives)⟩

theorem sustains_perform (job : Job) (fair : job.deed.isStep = true → stage.core.bell ≠ start.stage.core.bell) :
    Sustains start stage fabric (job.perform stage fabric).1 (job.perform stage fabric).2 :=
  ⟨handled_perform stage fabric job, fun own lives =>
    lives.perform (Bool.eq_false_iff.mpr fun steps => fair steps own)⟩

theorem sustains_turn (stage : Stage Builtin) (fabric : Fabric ω) :
    Sustains start stage fabric (Pipeline.turn stage fabric).2.1 (Pipeline.turn stage fabric).2.2 :=
  ⟨Builtin.handled_turn fabric stage, fun _ => Lives.turn⟩

theorem sustains_lock (stage : Stage Builtin) (fabric : Fabric ω) :
    Sustains start stage fabric { stage with core := stage.core.lockId } fabric :=
  ⟨Builtin.handled_lockId fabric stage, fun _ => Lives.lock⟩

theorem sustains_detachAll (feeds : List FeedId) (stage : Stage Builtin) (fabric : Fabric ω) :
    Sustains start stage fabric (Pipeline.detachAll feeds stage fabric).1
      (Pipeline.detachAll feeds stage fabric).2 := by
  induction feeds generalizing stage fabric with
  | nil => exact .refl start stage fabric
  | cons feed feeds ih =>
    have first : Sustains start stage fabric _ _ := sustains_perform (.detachFeed feed) nofun
    exact first.trans (ih _ _)

theorem sustains_start (stage : Stage Builtin) (fabric : Fabric ω) :
    let next := if stage.isStarted then (stage, fabric) else (stage.start fabric).2
    Sustains start stage fabric next.1 next.2 := by
  simp only
  split
  next => exact .refl start stage fabric
  next => exact sustains_perform .start nofun

theorem sustains_stop (stage : Stage Builtin) (fabric : Fabric ω) :
    Sustains start stage fabric (stage.stop fabric).1 (stage.stop fabric).2 :=
  sustains_perform .stop nofun

theorem sustains_loosen (stage : Stage Builtin) (fabric : Fabric ω) :
    let stopped := stage.stop fabric
    let loose := stopped.1.core.detachInputs stopped.2
    Sustains start stage fabric { stopped.1 with core := loose.1 } loose.2 :=
  (sustains_stop stage fabric).trans (sustains_perform .detachInputs nofun)

theorem sustains_join {feed : FeedId} {input : Nat} {core : Core} (present : fabric.hasFeed feed = true)
    (connected : stage.core.setInput (some feed) input fabric = .ok (core, after)) :
    Sustains start stage fabric { stage with core } after := by
  have joined : Sustains start stage fabric _ _ := sustains_perform (.connect (some feed) input) nofun
  simp only [Job.perform, Option.all_some, if_pos present, connected] at joined
  exact joined

/-- The stages among which the life is led: its outputs are nobody else's. -/
structure Houses (start : World ω) (stages : List (Stage Builtin)) (fabric : Fabric ω) : Prop where
  known : fabric.hasBell start.stage.core.bell = true
  present : ∀ id ∈ start.stage.core.outputFeeds, fabric.hasFeed id = true
  lives : ∀ stage ∈ stages, stage.core.bell = start.stage.core.bell → Lives start stage fabric
  apart : ∀ stage ∈ stages, stage.core.bell ≠ start.stage.core.bell →
    ∀ id ∈ start.stage.core.outputFeeds, id ∉ stage.core.outputFeeds

namespace Houses

variable {stages others before later : List (Stage Builtin)}

theorem of_subset (houses : Houses start stages fabric) (subset : others ⊆ stages) : Houses start others fabric :=
  { houses with
    lives := fun stage member => houses.lives stage (subset member)
    apart := fun stage member => houses.apart stage (subset member) }

theorem cons (houses : Houses start stages fabric)
    (lives : stage.core.bell = start.stage.core.bell → Lives start stage fabric)
    (apart : stage.core.bell ≠ start.stage.core.bell →
      ∀ id ∈ start.stage.core.outputFeeds, id ∉ stage.core.outputFeeds) : Houses start (stage :: stages) fabric :=
  { houses with
    lives := List.forall_mem_cons.mpr ⟨lives, houses.lives⟩
    apart := List.forall_mem_cons.mpr ⟨apart, houses.apart⟩ }

theorem confined {feeds : List FeedId} (houses : Houses start stages fabric)
    (known : after.hasBell start.stage.core.bell = fabric.hasBell start.stage.core.bell)
    (apart : ∀ id ∈ start.stage.core.outputFeeds, id ∉ feeds) (confined : Confined feeds fabric after) :
    Houses start stages after where
  known := known.trans houses.known
  present id own := by
    rw [Fabric.hasFeed, confined.contents id (apart id own) (houses.present id own), ← Fabric.hasFeed]
    exact houses.present id own
  lives stage member own := (houses.lives stage member own).confined houses.present apart confined
  apart := houses.apart

/-- Whatever may be done to the first of the stages. -/
theorem sustained (houses : Houses start (stage :: stages) fabric) (orderly : Orderly (stage :: stages) fabric)
    (sustains : Sustains start stage fabric next after) : Houses start (next :: stages) after := by
  have handled := sustains.handled
  by_cases own : stage.core.bell = start.stage.core.bell
  · have lives := sustains.lives own (houses.lives stage List.mem_cons_self own)
    have fits := handled.fits (orderly.fits stage List.mem_cons_self)
    have alone : ∀ other ∈ stages, other.core.bell ≠ start.stage.core.bell := fun other member same =>
      orderly.apart ((own.trans same.symm) ▸ List.mem_map_of_mem member)
    have rest : Houses start stages after :=
      { known := handled.bell.trans own ▸ fits.attentive.known
        present := fun id member => fits.outlets id (by rwa [Core.outputFeeds, lives.outputs])
        lives := fun other member same => absurd same (alone other member)
        apart := fun other member => houses.apart other (List.mem_cons_of_mem _ member) }
    exact rest.cons (fun _ => lives) fun differs => absurd (handled.bell.trans own) differs
  · have outlets := houses.apart stage List.mem_cons_self own
    have rest := (houses.of_subset (List.subset_cons_self stage stages)).confined
      (handled.others _ (Ne.symm own)).hasBell outlets handled.confined
    have same : next.core.outputFeeds = stage.core.outputFeeds := congrArg (List.map OutputPort.feed) handled.outputs
    exact rest.cons (fun same => absurd (handled.bell.symm.trans same) own) fun _ => same ▸ outlets

end Houses

/-- Stages in order, among which the life is led. -/
structure Hosts (start : World ω) (stages : List (Stage Builtin)) (fabric : Fabric ω) : Prop where
  orderly : Orderly stages fabric
  houses : Houses start stages fabric

theorem Hosts.perm {stages others : List (Stage Builtin)} (hosts : Hosts start stages fabric)
    (permuted : stages.Perm others) : Hosts start others fabric :=
  ⟨hosts.orderly.perm permuted, hosts.houses.of_subset permuted.symm.subset⟩

theorem Hosts.sublist {stages others : List (Stage Builtin)} (hosts : Hosts start stages fabric)
    (fewer : others.Sublist stages) : Hosts start others fabric :=
  ⟨hosts.orderly.sublist fewer, hosts.houses.of_subset fewer.subset⟩

theorem fresh_make {kind : String} {make : Fabric ω → Stage Builtin × Fabric ω}
    (known : (kind, make) ∈ Builtin.constructors) (fabric : Fabric ω) :
    (make fabric).1.core.bell = ⟨fabric.bells.size⟩ ∧
      (∀ id ∈ (make fabric).1.core.outputFeeds, fabric.hasFeed id = false) ∧
      (∀ bell, bell ≠ ⟨fabric.bells.size⟩ → (make fabric).2.hasBell bell = fabric.hasBell bell) ∧
      Confined [] fabric (make fabric).2 := by
  obtain ⟨info, inputs, outputs, entries, core, after, -⟩ := constructed known fabric
  have alike : Core.Alike (Core.make info inputs outputs fabric).1 (make fabric).1.core :=
    core ▸ Core.alike_foldl_register entries _
  refine ⟨alike.bell, fun id own => ?_, fun bell apart => ?_, ?_⟩
  · rw [Core.outputFeeds, alike.outputs] at own
    obtain ⟨output, listed, rfl⟩ := List.mem_map.mp own
    exact Core.fresh_addOutputs outputs (fabric.addBell _).2 output listed
  · rw [after]
    exact (Core.spares_make info inputs outputs fabric apart).hasBell
  · rw [after]
    exact Fabric.confined_of_feeds (fun _ => Core.feed?_make info inputs outputs) []

theorem Hosts.create {stages : List (Stage Builtin)} (hosts : Hosts start stages fabric) {kind : String}
    {make : Fabric ω → Stage Builtin × Fabric ω} (known : (kind, make) ∈ Builtin.constructors) :
    Hosts start ((make fabric).1 :: stages) (make fabric).2 := by
  obtain ⟨bell, fresh, bells, confined⟩ := fresh_make known fabric
  have other : start.stage.core.bell ≠ ⟨fabric.bells.size⟩ := by
    intro same
    have missing : fabric.hasBell ⟨fabric.bells.size⟩ = false := by simp [Fabric.hasBell, Fabric.bell?]
    exact Bool.false_ne_true (missing.symm.trans (same ▸ hosts.houses.known))
  have houses := hosts.houses.confined (bells _ other) (fun _ _ => List.not_mem_nil) confined
  refine ⟨made_orderly hosts.orderly known, houses.cons (fun same => ?_) fun _ id own listed => ?_⟩
  · exact absurd (same.symm.trans bell) other
  · exact Bool.false_ne_true ((fresh id listed).symm.trans (hosts.houses.present id own))

theorem preserved_hosts :
    Preserved (Sustains start) fun held placed (fabric : Fabric ω) => Hosts start (held ++ placed) fabric :=
  preserved_of_first (fun sustains => sustains.handled.bell) (fun hosts => hosts.orderly.distinct) Hosts.perm
    Hosts.sublist (fun sustains hosts => ⟨hosts.orderly.first sustains.handled,
      hosts.houses.sustained hosts.orderly sustains⟩) sustains_lock

/-- A controller takes a step of the stage by hand, or pushes on its outputs. -/
def Action.Disturbs (start : World ω) (bench : Bench ω Builtin) : Action → Prop
  | .handle name job => job.deed.isStep = true ∧ ∃ stage ∈ bench.stage? name, stage.core.bell = start.stage.core.bell
  | .push feed _ => feed ∈ start.stage.core.outputFeeds
  | _ => False

instance (start : World ω) (bench : Bench ω Builtin) : (action : Action) → Decidable (action.Disturbs start bench)
  | .handle name _ => inferInstanceAs (Decidable (_ ∧ ∃ stage ∈ bench.stage? name, _))
  | .push .. => inferInstanceAs (Decidable (_ ∈ _))
  | .addFeed .. | .create .. | .place _ | .takeBack _ | .connect .. | .start | .stop | .tick =>
    inferInstanceAs (Decidable False)

/-- Nobody disturbs the stage in the course of a run. -/
def Undisturbed (start : World ω) (bench : Bench ω Builtin) : List Action → Prop
  | [] => True
  | action :: actions => ¬ action.Disturbs start bench ∧ Undisturbed start (bench.act action) actions

instance decidableUndisturbed (start : World ω) (bench : Bench ω Builtin) :
    (actions : List Action) → Decidable (Undisturbed start bench actions)
  | [] => .isTrue trivial
  | action :: actions =>
    have := decidableUndisturbed start (bench.act action) actions
    inferInstanceAs (Decidable (_ ∧ _))

variable {bench : Bench ω Builtin}

/-- An action that does not disturb the stage is aside of its life, or one of its turns. -/
theorem hosts_act (hosts : Hosts start bench.stages bench.fabric) {action : Action}
    (calm : ¬ action.Disturbs start bench) : Hosts start (bench.act action).stages (bench.act action).fabric := by
  have preserved : Preserved (Sustains start) _ := preserved_hosts
  cases action with
  | addFeed name format =>
    have spares := Fabric.spares_addFeed bench.fabric name format
    have confined : Confined [] bench.fabric (bench.fabric.addFeed name format).2 :=
      Fabric.confined_of_feeds (fun _ present => Fabric.feed?_addFeed present name format) []
    exact ⟨hosts.orderly.spared spares, hosts.houses.confined (spares _).hasBell (fun _ _ => List.not_mem_nil) confined⟩
  | create name kind =>
    simp only [act]
    split
    next => exact hosts
    next make known =>
      obtain ⟨_, _, listed, -⟩ := List.lookup_eq_some_iff.mp known
      have known : (kind, make) ∈ Builtin.constructors := listed ▸ List.mem_append_cons_self
      exact preserved.hold bench (hosts.create known) name
  | handle name job =>
    simp only [act]
    split
    next => exact hosts
    next stage found =>
      exact preserved.store hosts found (sustains_perform job fun steps own => calm ⟨steps, stage, found, own⟩)
  | place name =>
    simp only [act]
    split
    next => exact hosts
    next done => exact preserved.place hosts done
  | takeBack id =>
    simp only [act]
    split
    next done => exact preserved.takeBack sustains_loosen sustains_detachAll hosts done
    next => exact hosts
  | connect producer output consumer input =>
    simp only [act]
    split
    next done =>
      refine preserved.connect (fun source listed feed output target core connected => ?_) hosts done
      have fits := hosts.orderly.fits source (List.mem_append_right _ listed)
      exact sustains_join (fits.outlets feed (Core.mem_outputFeeds output)) connected
    next => exact hosts
  | push feed payload =>
    simp only [act]
    split
    next accepted =>
      have fed : Fabric.Fed [feed] [] bench.fabric _ := Fabric.fed_push accepted
      refine ⟨hosts.orderly.spared fun _ => fed.spares List.not_mem_nil, hosts.houses.confined (fed.hasBell _)
        (fun id own pushed => calm ?_) fed.confined⟩
      exact List.mem_singleton.mp pushed ▸ own
    next => exact hosts
  | start => exact preserved.start sustains_start hosts
  | stop => exact preserved.stop sustains_stop hosts
  | tick => exact preserved.tick sustains_turn hosts

theorem hosts_run (hosts : Hosts start bench.stages bench.fabric) {actions : List Action}
    (calm : Undisturbed start bench actions) :
    Hosts start (bench.run actions).stages (bench.run actions).fabric := by
  induction actions generalizing bench with
  | nil => exact hosts
  | cons action actions ih => exact ih (hosts_act hosts calm.1) calm.2

/-- A life begins when a controller makes a tracker stage. -/
theorem hosts_begun (inOrder : bench.InOrder) (name : String) :
    let begun := bench.act (.create name BlobTracker.name)
    Hosts (World.make bench.fabric) begun.stages begun.fabric := by
  have known : (BlobTracker.name, Builtin.tracker) ∈ Builtin.constructors (ω := ω) :=
    List.mem_cons_of_mem _ List.mem_cons_self
  have found : Builtin.constructors.lookup BlobTracker.name = some (Builtin.tracker (ω := ω)) := rfl
  obtain ⟨-, fresh, -⟩ := fresh_make known bench.fabric
  have orderly := made_orderly inOrder known
  have fits := orderly.fits _ List.mem_cons_self
  have alone : ∀ stage ∈ bench.stages, stage.core.bell ≠ (World.make bench.fabric).stage.core.bell :=
    fun stage member same => orderly.apart (same ▸ List.mem_map_of_mem member)
  have rest : Houses (World.make bench.fabric) bench.stages (World.make bench.fabric).fabric :=
    { known := fits.attentive.known
      present := fits.outlets
      lives := fun stage member same => absurd same (alone stage member)
      apart := fun stage member _ id own listed => by
        have there := (inOrder.fits stage member).outlets id listed
        exact Bool.false_ne_true ((fresh id own).symm.trans there) }
  have begun : Lives (World.make bench.fabric) (Builtin.tracker bench.fabric).1 (World.make bench.fabric).fabric :=
    ⟨rfl, 0, _, rfl, .begun⟩
  have hosts : Hosts (World.make bench.fabric) ((Builtin.tracker bench.fabric).1 :: bench.stages) _ :=
    ⟨orderly, rest.cons (fun _ => begun) fun differs => absurd rfl differs⟩
  simp only [act, found]
  exact preserved_hosts.hold bench hosts name

end TouchTracking.Bench

namespace TouchTracking.BlobTracker.World

/-- Over the life of a stage on whose outputs nobody else pushes, a poll that reports work has published one picture
and one list of touches, or it answered news with no mask to see; a poll that has not published changes no feed. So
in a pipeline the recorded frames are the published lists of touches and the turns that were missed in this way: a
stage that a controller makes on a bench leads such a life there, whatever else the controller does. -/
theorem work_is_issued_or_missed (fabric : Fabric ω) (past : List Deed)
    (own : ∀ feed payload, .push feed payload ∈ past → feed ∉ (make fabric).stage.core.outputFeeds) :
    let world := (make fabric).run past
    let polled := Behaviour.poll world.stage world.fabric
    ∃ drawn told, drawn ≠ told ∧ (make fabric).stage.core.outputFeeds = [drawn, told] ∧
      (polled.1 = true ↔ world.Issues drawn told polled.2.2 ∨ world.Misses) ∧
      ¬ (world.Issues drawn told polled.2.2 ∧ world.Misses) ∧
      (¬ world.Issues drawn told polled.2.2 → polled.2.2.feeds = world.fabric.feeds) ∧
      (∀ missed later, Lived (make fabric) missed later → later.frames = later.fabric.sequence told + missed) ∧
      ∀ (bench : Bench ω Builtin) (name : String) (actions : List Bench.Action), bench.InOrder → bench.fabric = fabric →
        let begun := bench.act (.create name BlobTracker.name)
        Bench.Undisturbed (make fabric) begun actions →
        ∀ stage ∈ (begun.run actions).stages, stage.core.bell = (make fabric).stage.core.bell →
          Bench.Lives (make fabric) stage (begun.run actions).fabric := by
  intro world polled
  have inStep : InStep world ⟨fabric.feeds.size⟩ ⟨fabric.feeds.size + 1⟩ := inStep_of_own own
  have configured : world.stage.body.Configured := configured_run Tracker.Fresh.standard.configured past
  have reported : Reported world ⟨fabric.feeds.size⟩ ⟨fabric.feeds.size + 1⟩ polled := reported inStep configured
  refine ⟨_, _, inStep.outfitted.apart, (inStep_make fabric).outfitted.outputs, ?_, fun both => both.1.hits both.2, ?_,
    fun missed later lived => (lived.balanced (balanced_make fabric)).frames,
    fun bench name actions inOrder here calm => ?_⟩
  rotate_left 2
  · subst here
    exact (Bench.hosts_run (Bench.hosts_begun inOrder name) calm).houses.lives
  all_goals
    clear_value polled
    cases reported with
    | issued issues => simp [issues]
    | missed misses kept => simp [misses, kept]
    | idle hits kept => simp [hits, kept, not_issues_of_kept inStep kept]

def fed : List Deed := [.connect (some ⟨0⟩) 0, .start, .push ⟨0⟩ (.image (.blank 8 8 1))]

def cut : List Deed := [.push ⟨0⟩ (.image (.blank 8 8 1)), .connect none 0]

/-- A bench with a feed of masks and a tracker. -/
def equipped : Bench Unit Builtin :=
  ((Bench.empty ()).addFeed "mask" .image).act (.create "tracker" BlobTracker.name)

/-- A controller takes two masks to the tracker in the pipeline, and disconnects it before the second tick. -/
def driven : List Bench.Action :=
  [.handle "tracker" (.connect (some ⟨0⟩) 0), .place "tracker", .start, .push ⟨0⟩ (.image (.blank 8 8 1)), .tick,
    .push ⟨0⟩ (.image (.blank 8 8 1)), .handle "tracker" (.connect none 0), .tick]

theorem work_is_issued_or_missed_cut :
    (∀ feed payload, .push feed payload ∈ fed → feed ∉ (make maskFeed).stage.core.outputFeeds) ∧
    let world := (make maskFeed).run fed
    let last := (world.turn.run cut).turn
    world.Issues ⟨1⟩ ⟨2⟩ (Behaviour.poll world.stage world.fabric).2.2 ∧
    last.frames = 2 ∧ last.fabric.sequence ⟨2⟩ = 1 ∧
    Bench.Undisturbed (make maskFeed) equipped driven ∧
    ∃ stage ∈ (equipped.run driven).stages, stage.core.bell = (make maskFeed).stage.core.bell ∧
      stage.core.stats.process.count = 2 ∧ (equipped.run driven).fabric.sequence ⟨2⟩ = 1 ∧
      ∃ body, Lived (make maskFeed) 1 ⟨⟨stage.core, body⟩, (equipped.run driven).fabric⟩ := by
  have foreign (deeds : List Deed) (masks : deeds ⊆ fed ++ cut) (feed : FeedId) (payload : Payload)
      (pushed : .push feed payload ∈ deeds) : feed ∉ (make maskFeed).stage.core.outputFeeds := by
    have listed := masks pushed
    simp only [fed, cut, List.cons_append, List.nil_append, List.mem_cons, reduceCtorEq, Deed.push.injEq,
      List.not_mem_nil, or_false, false_or] at listed
    rcases listed with ⟨rfl, -⟩ | ⟨rfl, -⟩ <;> decide
  have own := foreign fed (List.subset_append_left ..)
  let world := (make maskFeed).run fed
  obtain ⟨drawn, told, -, outputs, reports, -, -, counts, lives⟩ := work_is_issued_or_missed maskFeed fed own
  have known : (make maskFeed).stage.core.outputFeeds = [⟨1⟩, ⟨2⟩] := by decide
  cases outputs.symm.trans known
  have hits : ¬ world.Misses := by decide +kernel
  have worked : (Behaviour.poll world.stage world.fabric).1 = true := by decide +kernel
  -- The first turn answers the mask, and the second finds none.
  have first : Lived (make maskFeed) 0 world.turn :=
    (if_neg hits : (if world.Misses then 1 else 0) = 0) ▸
      (Lived.begun.run (by decide) own).turned
  have outputs_ : world.turn.stage.core.outputFeeds = [⟨1⟩, ⟨2⟩] := by decide +kernel
  have second : Lived (make maskFeed) 0 (world.turn.run cut) := first.run (by decide)
    (outputs_ ▸ known ▸ foreign cut (List.subset_append_right ..))
  have misses : (world.turn.run cut).Misses := by decide +kernel
  have last := second.turned
  rw [if_pos misses] at last
  have balance := counts _ _ last
  have told_ : (world.turn.run cut).turn.fabric.sequence ⟨2⟩ = 1 := by decide +kernel
  refine ⟨own, (reports.mp worked).resolve_right hits, by rw [balance, told_], told_, ?_⟩
  -- On the bench the tracker misses its second turn.
  have inOrder := Bench.inOrder_run () [.addFeed "mask" .image]
  have calm : Bench.Undisturbed (make maskFeed) equipped driven := by decide +kernel
  have listed : ∃ stage ∈ (equipped.run driven).stages, stage.core.bell = (make maskFeed).stage.core.bell ∧
      stage.core.stats.process.count = 2 := by decide +kernel
  have issued : (equipped.run driven).fabric.sequence ⟨2⟩ = 1 := by decide +kernel
  obtain ⟨stage, member, bell, twice⟩ := listed
  obtain ⟨missed, body, -, lived⟩ := (lives _ "tracker" driven inOrder rfl calm stage member bell).lived
  have balance : stage.core.stats.process.count = (equipped.run driven).fabric.sequence ⟨2⟩ + missed :=
    counts _ _ lived
  rw [twice, issued] at balance
  obtain rfl : missed = 1 := by omega
  exact ⟨calm, stage, member, bell, twice, issued, body, lived⟩

/-- A started stage has news of a mask, and its input is disconnected before it is polled: the poll reports work and
the pipeline counts a frame, but the outputs have never accepted anything. -/
theorem work_without_issue :
    let world := (make maskFeed).run (fed ++ [.connect none 0])
    let polled := Behaviour.poll world.stage world.fabric
    let ticked := (⟨[world.stage], true⟩ : Pipeline Body).poll world.fabric
    world.stage.core.outputFeeds = [⟨1⟩, ⟨2⟩] ∧
      (polled.1 = true ∧ polled.2.2.sequence ⟨1⟩ = 0 ∧ polled.2.2.sequence ⟨2⟩ = 0) ∧
      ticked.1 = 1 ∧ ticked.2.1.stages.map (·.core.stats.process.count) = [1] ∧ ticked.2.2.sequence ⟨2⟩ = 0 := by
  decide +kernel

end TouchTracking.BlobTracker.World
