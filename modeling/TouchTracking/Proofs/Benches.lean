import TouchTracking.Proofs.Bookkeeping
import TouchTracking.Proofs.Handling

/-! Runs of a controller's bench with the stages that come with the library: everything that a controller can do,
in any order. The stages of the bench, held or in the pipeline, have bells of their own, each of which is
registered just where its stage is connected. -/
namespace TouchTracking

open Builtin (Fits Handled)
open Fabric (Spares Fed)
open Wiring (Attentive)

variable {ω : Type}

namespace Fabric

theorem closed_iff {fabric : Fabric ω} :
    fabric.Closed ↔ ∀ bell id, fabric.hasBell bell = false → fabric.registrations bell id = 0 := by
  constructor
  · intro closed bell id missing
    refine closed.registrations_eq_zero ?_ id
    rw [hasBell, bell?, Option.isSome_eq_false_iff, Option.isNone_iff_eq_none] at missing
    exact Array.getElem?_eq_none_iff.mp missing
  · intro closed feed listed bell registered
    obtain ⟨index, found⟩ := Array.mem_iff_getElem?.mp (Array.mem_toList_iff.mp listed)
    refine Decidable.byContradiction fun outside => ?_
    have missing : fabric.hasBell bell = false := by
      rw [hasBell, bell?, Array.getElem?_eq_none (Nat.not_lt.mp outside)]
      rfl
    have counted : fabric.registrations bell ⟨index⟩ = feed.observers.count bell := by
      rw [registrations, feed?, found]
    have some_ := List.count_pos_iff.mpr registered
    have none_ := closed bell ⟨index⟩ missing
    omega

theorem feed?_addFeed {fabric : Fabric ω} {id : FeedId} (present : fabric.hasFeed id = true) (name : String)
    (format : Feed.Format) : (fabric.addFeed name format).2.feed? id = fabric.feed? id := by
  have inside : id.index < fabric.feeds.size := by
    simpa [hasFeed, content?, feed?, Array.getElem?_eq_some_iff] using present
  simp [feed?, addFeed, Array.getElem?_push_lt, inside]

theorem spares_addFeed (fabric : Fabric ω) (name : String) (format : Feed.Format) (bell : BellId) :
    Spares bell fabric (fabric.addFeed name format).2 where
  hasBell := rfl
  hasFeed id present := by rwa [hasFeed, content?, feed?_addFeed present, ← content?, ← hasFeed]
  registrations id := registrations_addFeed fabric id bell name format
  rung := .inl

theorem hasFeed_addFeed (fabric : Fabric ω) (name : String) (format : Feed.Format) :
    (fabric.addFeed name format).2.hasFeed (fabric.addFeed name format).1 = true := by
  simp [hasFeed, content?, feed?, addFeed]

theorem spares_addBell (fabric : Fabric ω) (owner : String) {bell : BellId}
    (apart : bell ≠ (fabric.addBell owner).1) : Spares bell fabric (fabric.addBell owner).2 where
  hasBell := by
    have other : bell.index ≠ fabric.bells.size := fun same => apart (congrArg BellId.mk same)
    simp [hasBell, bell?, addBell, Array.getElem?_push, other]
  hasFeed _ := id
  registrations _ := rfl
  rung ringing := .inl (isRinging_addBell fabric bell owner ▸ ringing)

end Fabric

namespace Core

theorem spares_addOutputs (ports : List Port) (fabric : Fabric ω) (bell : BellId) :
    Spares bell fabric (addOutputs fabric ports).2 := by
  induction ports generalizing fabric with
  | nil => exact .refl fabric
  | cons port ports ih => exact (Fabric.spares_addFeed fabric port.name port.format bell).trans (ih _)

theorem hasFeed_addOutputs (ports : List Port) (fabric : Fabric ω) :
    ∀ output ∈ (addOutputs fabric ports).1, (addOutputs fabric ports).2.hasFeed output.feed = true := by
  induction ports generalizing fabric with
  | nil => nofun
  | cons port ports ih =>
    intro output member
    rcases List.mem_cons.mp member with rfl | later
    · exact (spares_addOutputs ports _ ⟨0⟩).hasFeed _ (Fabric.hasFeed_addFeed fabric port.name port.format)
    · exact ih _ output later

theorem feed?_addOutputs (ports : List Port) {fabric : Fabric ω} {id : FeedId} (present : fabric.hasFeed id = true) :
    (addOutputs fabric ports).2.feed? id = fabric.feed? id := by
  induction ports generalizing fabric with
  | nil => rfl
  | cons port ports ih =>
    have still := (Fabric.spares_addFeed fabric port.name port.format ⟨0⟩).hasFeed id present
    exact (ih still).trans (Fabric.feed?_addFeed present port.name port.format)

theorem feed?_make (info : StageInfo) (inputs outputs : List Port) {fabric : Fabric ω} {id : FeedId}
    (present : fabric.hasFeed id = true) : (make info inputs outputs fabric).2.feed? id = fabric.feed? id :=
  feed?_addOutputs outputs (by exact present)

/-- The outputs lead to feeds that were not there before. -/
theorem fresh_addOutputs (ports : List Port) (fabric : Fabric ω) :
    ∀ output ∈ (addOutputs fabric ports).1, fabric.hasFeed output.feed = false := by
  induction ports generalizing fabric with
  | nil => nofun
  | cons port ports ih =>
    intro output member
    rcases List.mem_cons.mp member with rfl | later
    · simp [Fabric.hasFeed, Fabric.content?, Fabric.feed?]
    · refine Bool.eq_false_iff.mpr fun present => Bool.false_ne_true ?_
      have still := (Fabric.spares_addFeed fabric port.name port.format ⟨0⟩).hasFeed _ present
      exact (ih _ output later).symm.trans still

theorem spares_make (info : StageInfo) (inputs outputs : List Port) (fabric : Fabric ω) {bell : BellId}
    (apart : bell ≠ (make info inputs outputs fabric).1.bell) :
    Spares bell fabric (make info inputs outputs fabric).2 :=
  (Fabric.spares_addBell fabric _ apart).trans (spares_addOutputs outputs _ bell)

end Core

/-- Stages with bells of their own among feeds that exist. -/
structure Orderly (stages : List (Stage Builtin)) (fabric : Fabric ω) : Prop where
  distinct : (stages.map fun stage => stage.core.bell).Nodup
  fits : ∀ stage ∈ stages, Fits stage fabric
  closed : ∀ bell id, fabric.hasBell bell = false → fabric.registrations bell id = 0

namespace Orderly

variable {stages others before later : List (Stage Builtin)} {stage next : Stage Builtin}
  {fabric after : Fabric ω}

theorem empty (surroundings : ω) : Orderly [] (Fabric.empty surroundings) :=
  ⟨List.nodup_nil, nofun, fun _ _ _ => rfl⟩

theorem perm (orderly : Orderly stages fabric) (permuted : stages.Perm others) : Orderly others fabric :=
  ⟨(permuted.map _).nodup_iff.mp orderly.distinct,
    fun stage member => orderly.fits stage (permuted.mem_iff.mpr member), orderly.closed⟩

theorem sublist (orderly : Orderly stages fabric) (fewer : others.Sublist stages) : Orderly others fabric :=
  ⟨orderly.distinct.sublist (fewer.map _), fun stage member => orderly.fits stage (fewer.subset member),
    orderly.closed⟩

theorem spared (orderly : Orderly stages fabric) (spares : ∀ bell, Spares bell fabric after) :
    Orderly stages after where
  distinct := orderly.distinct
  fits stage member := (orderly.fits stage member).spared (.refl _) rfl (spares _)
  closed bell id missing := by
    rw [(spares bell).registrations]
    exact orderly.closed bell id ((spares bell).hasBell ▸ missing)

theorem apart (orderly : Orderly (stage :: others) fabric) :
    stage.core.bell ∉ others.map fun stage => stage.core.bell := by
  have distinct := orderly.distinct
  rw [List.map_cons, List.nodup_cons] at distinct
  exact distinct.1

/-- Whatever is done to one stage leaves all of them in order. -/
theorem replace (orderly : Orderly (before ++ stage :: later) fabric)
    (handled : Handled stage fabric next after) : Orderly (before ++ next :: later) after where
  distinct := by
    have distinct := orderly.distinct
    rw [List.map_append, List.map_cons] at distinct ⊢
    rwa [handled.bell]
  fits other member := by
    have front := orderly.perm List.perm_middle
    have spared (beside : other ∈ before ++ later) : Fits other after := by
      have fits := front.fits other (List.mem_cons_of_mem _ beside)
      refine fits.spared (.refl _) rfl (handled.others _ fun same => front.apart ?_)
      exact same ▸ List.mem_map_of_mem beside
    rcases List.mem_cons.mp (List.perm_middle.mem_iff.mp member) with rfl | beside
    · exact handled.fits (orderly.fits stage List.mem_append_cons_self)
    · exact spared beside
  closed bell id missing := by
    have known := (handled.fits (orderly.fits stage List.mem_append_cons_self)).attentive.known
    have apart : bell ≠ stage.core.bell := by
      rintro rfl
      rw [← handled.bell] at missing
      exact Bool.false_ne_true (missing.symm.trans known)
    have spares := handled.others bell apart
    rw [spares.registrations]
    exact orderly.closed bell id (spares.hasBell ▸ missing)

theorem first (orderly : Orderly (stage :: others) fabric) (handled : Handled stage fabric next after) :
    Orderly (next :: others) after := by
  have whole : Orderly ([] ++ stage :: others) fabric := orderly
  exact whole.replace handled

/-- A new stage has a new bell, and outputs of its own. -/
theorem create (orderly : Orderly stages fabric) {info : StageInfo} {inputs outputs : List Port}
    (few : inputs.length ≤ 1)
    (alike : Core.Alike (Core.make info inputs outputs fabric).1 stage.core)
    (kind : stage.body.isLeft = true → inputs = []) :
    Orderly (stage :: stages) (Core.make info inputs outputs fabric).2 := by
  have attentive := Attentive.make (Fabric.closed_iff.mpr orderly.closed) info few outputs
  have missing : fabric.hasBell ⟨fabric.bells.size⟩ = false := by simp [Fabric.hasBell, Fabric.bell?]
  have bell : stage.core.bell = ⟨fabric.bells.size⟩ := alike.bell
  have spares {other : BellId} (apart : other ≠ stage.core.bell) :
      Spares other fabric (Core.make info inputs outputs fabric).2 :=
    Core.spares_make info inputs outputs fabric (alike.bell ▸ apart)
  have old {other : Stage Builtin} (member : other ∈ stages) : other.core.bell ≠ stage.core.bell := by
    intro same
    have known := (orderly.fits other member).attentive.known
    rw [same, bell] at known
    exact Bool.false_ne_true (missing.symm.trans known)
  refine ⟨?_, fun other member => ?_, fun other id unknown => ?_⟩
  · rw [List.map_cons, List.nodup_cons]
    refine ⟨fun member => ?_, orderly.distinct⟩
    obtain ⟨other, listed, same⟩ := List.mem_map.mp member
    exact old listed same
  · rcases List.mem_cons.mp member with rfl | listed
    · have closed := Fabric.closed_iff.mpr orderly.closed
      refine ⟨attentive.congr alike rfl (fun _ _ => id) fun _ => rfl, fun id here => ?_,
        fun id output => ?_, fun left => ⟨?_, ?_⟩⟩
      · obtain ⟨port, here⟩ := here
        exact absurd ⟨port, (alike.input? port).symm.trans here⟩
          ((Wiring.make_unwired closed info inputs outputs).2.1 id)
      · rw [Core.outputFeeds, alike.outputs] at output
        obtain ⟨entry, made, rfl⟩ := List.mem_map.mp output
        exact Core.hasFeed_addOutputs outputs _ entry made
      · rw [alike.inputs, kind left]
        rfl
      · rw [bell, Core.isRinging_make]
        exact Fabric.isRinging_of_not_hasBell missing
    · exact (orderly.fits other listed).spared (.refl _) rfl (spares (old listed))
  · have apart : other ≠ stage.core.bell := by
      rintro rfl
      rw [alike.bell] at unknown
      exact Bool.false_ne_true (unknown.symm.trans attentive.known)
    rw [(spares apart).registrations]
    exact orderly.closed other id ((spares apart).hasBell ▸ unknown)

end Orderly

namespace Bench

inductive Job
  | connect (feed : Option FeedId) (port : Nat)
  | detachInputs
  | detachFeed (feed : FeedId)
  | start
  | stop
  | poll
  | update
  | write (name : String) (value : Property.Value)

/-- A connection that is refused, or to a feed that does not exist, changes nothing. -/
def Job.perform (stage : Stage Builtin) (fabric : Fabric ω) : Job → Stage Builtin × Fabric ω
  | .connect feed port =>
    if feed.all fabric.hasFeed then
      match stage.core.setInput feed port fabric with
      | .ok (core, fabric) => ({ stage with core }, fabric)
      | .error _ => (stage, fabric)
    else (stage, fabric)
  | .detachInputs =>
    let (core, fabric) := stage.core.detachInputs fabric
    ({ stage with core }, fabric)
  | .detachFeed feed =>
    let (core, fabric) := stage.core.detachFeed feed fabric
    ({ stage with core }, fabric)
  | .start => (stage.start fabric).2
  | .stop => stage.stop fabric
  | .poll => (Behaviour.poll stage fabric).2
  | .update => (Behaviour.update stage fabric).2
  | .write name value =>
    let (_, core, fabric) := stage.core.setProperty name value fabric
    ({ stage with core }, fabric)

/-- What a controller can do. A feed is pushed on by whoever holds it, also while the stage that it came from is
in the pipeline. -/
inductive Action
  | addFeed (name : String) (format : Feed.Format)
  | create (name kind : String)
  | handle (name : String) (job : Job)
  | place (name : String)
  | takeBack (id : String)
  | connect (producer : String) (output : Nat) (consumer : String) (input : Nat)
  | push (feed : FeedId) (payload : Payload)
  | start
  | stop
  | tick

/-- What is refused changes nothing. -/
def act (bench : Bench ω Builtin) : Action → Bench ω Builtin
  | .addFeed name format => bench.addFeed name format
  | .create name kind => match Builtin.constructors.lookup kind with
    | none => bench
    | some make =>
      let (stage, fabric) := make bench.fabric
      bench.hold name stage fabric
  | .handle name job => match bench.stage? name with
    | none => bench
    | some stage =>
      let (stage, fabric) := job.perform stage bench.fabric
      bench.store name stage fabric
  | .place name => match bench.place name with
    | none => bench
    | some (_, bench) => bench
  | .takeBack id => match bench.takeBack id with
    | .ok bench => bench
    | .error _ => bench
  | .connect producer output consumer input =>
    match bench.pipeline.connect producer output consumer input bench.fabric with
    | .ok (pipeline, fabric) => { bench with pipeline, fabric }
    | .error _ => bench
  | .push feed payload => match bench.fabric.push feed payload with
    | .ok fabric => { bench with fabric }
    | .error _ => bench
  | .start => bench.drive Pipeline.start
  | .stop => bench.drive Pipeline.stop
  | .tick => (ticks 1 bench).2

def run (bench : Bench ω Builtin) : List Action → Bench ω Builtin
  | [] => bench
  | action :: actions => run (bench.act action) actions

/-- The stages of the bench, those that are held first. -/
def stages (bench : Bench ω Builtin) : List (Stage Builtin) :=
  bench.held.map Prod.snd ++ bench.pipeline.stages

theorem handled_perform (stage : Stage Builtin) (fabric : Fabric ω) (job : Job) :
    Handled stage fabric (job.perform stage fabric).1 (job.perform stage fabric).2 := by
  cases job with
  | connect feed port =>
    by_cases present : feed.all fabric.hasFeed = true
    · have change := Builtin.handled_change stage fabric (.connect feed port) nofun fun id _ same => by
        cases same
        exact present
      rw [Job.perform, if_pos present]
      rw [Wiring.act] at change
      cases done : stage.core.setInput feed port fabric with
      | ok => simpa only [done] using change
      | error => exact .refl ..
    · rw [Job.perform, if_neg present]
      exact .refl ..
  | detachInputs => exact Builtin.handled_detachInputs stage fabric
  | detachFeed feed => exact Builtin.handled_detachFeed stage fabric feed
  | start => exact Builtin.handled_start fabric stage
  | stop => exact Builtin.handled_stop fabric stage
  | poll => exact Builtin.handled_poll fabric stage
  | update => exact Builtin.handled_update fabric stage
  | write name value => exact Builtin.handled_write fabric stage name value

/-- Everything that is done to a single stage of a bench: a job by hand, its turn in a tick, and the locking of its
id when it is placed. -/
inductive Deed
  | hand (job : Job)
  | turn
  | lock

def Deed.perform (stage : Stage Builtin) (fabric : Fabric ω) : Deed → Stage Builtin × Fabric ω
  | .hand job => job.perform stage fabric
  | .turn => (Pipeline.turn stage fabric).2
  | .lock => ({ stage with core := stage.core.lockId }, fabric)

theorem handled_deed (stage : Stage Builtin) (fabric : Fabric ω) (deed : Deed) :
    Handled stage fabric (deed.perform stage fabric).1 (deed.perform stage fabric).2 := by
  cases deed with
  | hand job => exact handled_perform stage fabric job
  | turn => exact Builtin.handled_turn fabric stage
  | lock => exact Builtin.handled_lockId fabric stage

/-- What a stage and the fabric have become by some deeds, one after the other. -/
inductive Worked (stage : Stage Builtin) (fabric : Fabric ω) : Stage Builtin → Fabric ω → Prop
  | idle : Worked stage fabric stage fabric
  | more {middle : Stage Builtin} {between : Fabric ω} (worked : Worked stage fabric middle between)
      (deed : Deed) : Worked stage fabric (deed.perform middle between).1 (deed.perform middle between).2

theorem Worked.deed (stage : Stage Builtin) (fabric : Fabric ω) (deed : Deed) :
    Worked stage fabric (deed.perform stage fabric).1 (deed.perform stage fabric).2 := .more .idle deed

theorem Worked.trans {stage middle next : Stage Builtin} {fabric between after : Fabric ω}
    (first : Worked stage fabric middle between) (second : Worked middle between next after) :
    Worked stage fabric next after := by
  induction second with
  | idle => exact first
  | more _ deed ih => exact ih.more deed

theorem Worked.handled {stage next : Stage Builtin} {fabric after : Fabric ω}
    (worked : Worked stage fabric next after) : Handled stage fabric next after := by
  induction worked with
  | idle => exact .refl stage fabric
  | more _ deed ih => exact ih.trans (handled_deed _ _ deed)

/-- A property of stages and their fabric that is kept by everything that can happen on a bench, as long as the
stages are in order. -/
structure Invariant (property : List (Stage Builtin) → Fabric ω → Prop) : Prop where
  perm : ∀ {stages others fabric}, property stages fabric → stages.Perm others → property others fabric
  sublist : ∀ {stages others fabric}, property stages fabric → others.Sublist stages → property others fabric
  made : ∀ {stages fabric kind make}, Orderly stages fabric → property stages fabric →
    (kind, make) ∈ Builtin.constructors → property ((make fabric).1 :: stages) (make fabric).2
  done : ∀ {stage others fabric} deed, Orderly (stage :: others) fabric → property (stage :: others) fabric →
    property ((Deed.perform stage fabric deed).1 :: others) (Deed.perform stage fabric deed).2
  pushed : ∀ {stages fabric feed payload after}, Orderly stages fabric → property stages fabric →
    fabric.push feed payload = .ok after → property stages after
  extended : ∀ {stages fabric} name format, Orderly stages fabric → property stages fabric →
    property stages (fabric.addFeed name format).2

/-- Stages that are in order and have a property. -/
structure Holds (property : List (Stage Builtin) → Fabric ω → Prop) (stages : List (Stage Builtin))
    (fabric : Fabric ω) : Prop where
  orderly : Orderly stages fabric
  holds : property stages fabric

theorem worked_detachAll (feeds : List FeedId) (stage : Stage Builtin) (fabric : Fabric ω) :
    Worked stage fabric (Pipeline.detachAll feeds stage fabric).1
      (Pipeline.detachAll feeds stage fabric).2 := by
  induction feeds generalizing stage fabric with
  | nil => exact .idle
  | cons feed feeds ih => exact (Worked.deed stage fabric (.hand (.detachFeed feed))).trans (ih _ _)

theorem worked_start (stage : Stage Builtin) (fabric : Fabric ω) :
    let next := if stage.isStarted then (stage, fabric) else (stage.start fabric).2
    Worked stage fabric next.1 next.2 := by
  simp only
  by_cases started : stage.isStarted = true
  · rw [if_pos started]
    exact .idle
  · rw [if_neg started]
    exact .deed stage fabric (.hand .start)

/-- A stage that is taken out is stopped and loses its inputs. -/
theorem worked_loosen (stage : Stage Builtin) (fabric : Fabric ω) :
    let stopped := stage.stop fabric
    let loose := stopped.1.core.detachInputs stopped.2
    Worked stage fabric { stopped.1 with core := loose.1 } loose.2 :=
  (Worked.deed stage fabric (.hand .stop)).more (.hand .detachInputs)

theorem worked_join {target : Stage Builtin} {fabric after : Fabric ω} {feed : FeedId} {input : Nat} {core : Core}
    (present : fabric.hasFeed feed = true)
    (connected : target.core.setInput (some feed) input fabric = .ok (core, after)) :
    Worked target fabric { target with core } after := by
  have worked := Worked.deed target fabric (.hand (.connect (some feed) input))
  simp only [Deed.perform, Job.perform, Option.all_some, if_pos present, connected] at worked
  exact worked

/-- A new stage is what every stage is in the beginning, with the properties of its kind beside the id. -/
theorem constructed {kind : String} {make : Fabric ω → Stage Builtin × Fabric ω}
    (known : (kind, make) ∈ Builtin.constructors) (fabric : Fabric ω) :
    ∃ info inputs outputs entries,
      (make fabric).1.core = List.foldl (fun core (entry : String × Property) => core.register entry.1 entry.2)
        (Core.make info inputs outputs fabric).1 entries ∧
      (make fabric).2 = (Core.make info inputs outputs fabric).2 ∧
      inputs.length ≤ 1 ∧ (∀ entry ∈ entries, entry.1 ≠ idName) ∧
      ((make fabric).1.body.isLeft = true → inputs = []) := by
  simp only [Builtin.constructors, List.mem_cons, Prod.mk.injEq, List.not_mem_nil, or_false] at known
  rcases known with ⟨-, rfl⟩ | ⟨-, rfl⟩
  · exact ⟨⟨SquareSource.name, SquareSource.description, Source.author⟩, [], [Source.framePort],
      SquareSettings.standard.properties, rfl, rfl, Nat.zero_le 1, by decide, fun _ => rfl⟩
  · exact ⟨BlobTracker.info, [BlobTracker.maskPort], [BlobTracker.annotatedPort, BlobTracker.touchesPort],
      BlobTracker.properties, rfl, rfl, Nat.le_refl 1, by decide, fun left => absurd left Bool.false_ne_true⟩

theorem made_orderly {stages : List (Stage Builtin)} {fabric : Fabric ω} (orderly : Orderly stages fabric)
    {kind : String} {make : Fabric ω → Stage Builtin × Fabric ω} (known : (kind, make) ∈ Builtin.constructors) :
    Orderly ((make fabric).1 :: stages) (make fabric).2 := by
  obtain ⟨info, inputs, outputs, entries, core, after, few, -, source⟩ := constructed known fabric
  rw [after]
  exact orderly.create few (core ▸ Core.alike_foldl_register entries _) source

section Holds

variable {property : List (Stage Builtin) → Fabric ω → Prop} (invariant : Invariant property)
  {stages others before later : List (Stage Builtin)} {stage next : Stage Builtin} {fabric after : Fabric ω}

include invariant

theorem Holds.perm (holds : Holds property stages fabric) (permuted : stages.Perm others) :
    Holds property others fabric :=
  ⟨holds.orderly.perm permuted, invariant.perm holds.holds permuted⟩

theorem Holds.sublist (holds : Holds property stages fabric) (fewer : others.Sublist stages) :
    Holds property others fabric :=
  ⟨holds.orderly.sublist fewer, invariant.sublist holds.holds fewer⟩

/-- Whatever is done to the first of the stages. -/
theorem Holds.worked (holds : Holds property (stage :: others) fabric) (worked : Worked stage fabric next after) :
    Holds property (next :: others) after := by
  induction worked with
  | idle => exact holds
  | more worked deed ih =>
    exact ⟨ih.orderly.first (handled_deed _ _ deed), invariant.done deed ih.orderly ih.holds⟩

/-- What an invariant says is kept by whatever is done to one of the stages, and when stages change places. -/
theorem preserved :
    Preserved Worked fun held placed (fabric : Fabric ω) => Holds property (held ++ placed) fabric :=
  preserved_of_first (fun worked => worked.handled.bell) (fun holds => holds.orderly.distinct) (·.perm invariant)
    (·.sublist invariant) (fun worked holds => holds.worked invariant worked)
    fun stage fabric => .deed stage fabric .lock

variable {bench : Bench ω Builtin}

theorem holds_act (holds : Holds property bench.stages bench.fabric) (action : Action) :
    Holds property (bench.act action).stages (bench.act action).fabric := by
  cases action with
  | addFeed name format =>
    exact ⟨holds.orderly.spared (Fabric.spares_addFeed bench.fabric name format),
      invariant.extended name format holds.orderly holds.holds⟩
  | create name kind =>
    simp only [act]
    split
    next => exact holds
    next make known =>
      obtain ⟨_, _, listed, -⟩ := List.lookup_eq_some_iff.mp known
      have known : (kind, make) ∈ Builtin.constructors := listed ▸ List.mem_append_cons_self
      refine (preserved invariant).hold bench ?_ name
      exact ⟨made_orderly holds.orderly known, invariant.made holds.orderly holds.holds known⟩
  | handle name job =>
    simp only [act]
    split
    next => exact holds
    next stage found =>
      exact (preserved invariant).store holds found (.deed stage bench.fabric (.hand job))
  | place name =>
    simp only [act]
    split
    next => exact holds
    next done => exact (preserved invariant).place holds done
  | takeBack id =>
    simp only [act]
    split
    next done => exact (preserved invariant).takeBack worked_loosen worked_detachAll holds done
    next => exact holds
  | connect producer output consumer input =>
    simp only [act]
    split
    next done =>
      refine (preserved invariant).connect (fun source listed feed output target core connected => ?_) holds done
      have fits := holds.orderly.fits source (List.mem_append_right _ listed)
      exact worked_join (fits.outlets feed (Core.mem_outputFeeds output)) connected
    next => exact holds
  | push feed payload =>
    simp only [act]
    split
    next accepted =>
      exact ⟨holds.orderly.spared fun _ => (Fabric.fed_push accepted).spares List.not_mem_nil,
        invariant.pushed holds.orderly holds.holds accepted⟩
    next => exact holds
  | start => exact (preserved invariant).start worked_start holds
  | stop => exact (preserved invariant).stop (fun stage fabric => .deed stage fabric (.hand .stop)) holds
  | tick => exact (preserved invariant).tick (fun stage fabric => .deed stage fabric .turn) holds

/-- From an empty bench on, what everything on a bench keeps holds whatever a controller does. -/
theorem holds_run (surroundings : ω) (initial : property [] (Fabric.empty surroundings))
    (actions : List Action) :
    let bench := (Bench.empty surroundings : Bench ω Builtin).run actions
    Holds property bench.stages bench.fabric := by
  have step {bench : Bench ω Builtin} (holds : Holds property bench.stages bench.fabric)
      (actions : List Action) : Holds property (bench.run actions).stages (bench.run actions).fabric := by
    induction actions generalizing bench with
    | nil => exact holds
    | cons action actions ih => exact ih (holds_act invariant holds action)
  have start : Holds property (Bench.empty surroundings : Bench ω Builtin).stages
      (Bench.empty surroundings : Bench ω Builtin).fabric := ⟨Orderly.empty surroundings, initial⟩
  exact step start actions

end Holds

def InOrder (bench : Bench ω Builtin) : Prop := Orderly bench.stages bench.fabric

theorem inOrder_run (surroundings : ω) (actions : List Action) :
    ((empty surroundings : Bench ω Builtin).run actions).InOrder := by
  have nothing : Invariant (fun _ (_ : Fabric ω) => True) :=
    ⟨fun _ _ => trivial, fun _ _ => trivial, fun _ _ _ => trivial, fun _ _ _ => trivial,
      fun _ _ _ => trivial, fun _ _ _ _ => trivial⟩
  exact (holds_run nothing surroundings trivial actions).orderly

end Bench

end TouchTracking
