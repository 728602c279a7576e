import Mathlib.Data.List.Nodup
import TouchTracking.Proofs.Names

/-! The ids of the stages on a bench, whatever a controller does with stages of any kinds. In a pipeline they are
distinct and locked at any time. Once the id of a stage is locked, be it that it was assigned or that the stage was
taken into the pipeline, it stays what it is, wherever the stage goes from there. -/
namespace TouchTracking

open TouchTracking.Core (IdStep IdSteps)
open Fabric (OwnersStay)

variable {ω σ : Type}

namespace Core

/-- Why a locked id is not written. -/
def idRefusal (core : Core) : Property.Value → Failure
  | .text _ => (IdError.assigned core.id).failure
  | other => (IdError.notText other.kind).failure

/-- Whatever is written to the id is refused, and leaves nothing behind but the failure. -/
structure Settled (core : Core) (fabric : Fabric ω) : Prop where
  locked : core.isIdLocked = true
  write : ∀ value, core.setProperty idName value fabric =
    (.error (core.idRefusal value), core.fail (core.idRefusal value), fabric)
  assign : ∀ id, core.assignId id fabric = .error (IdError.assigned core.id).failure

variable {core : Core} {fabric : Fabric ω}

theorem settled_of_locked (locked : core.isIdLocked = true) : Settled core fabric := by
  have assign (id : String) : core.assignId id fabric = .error (IdError.assigned core.id).failure := by
    rw [assignId, if_pos locked]
  refine ⟨locked, fun value => ?_, assign⟩
  cases value with
  | text id => simp only [setProperty, writeProperty, if_pos, assign, idRefusal]
  | int | double | bool => rfl

theorem setProperty_of_assignId {id : String} {next : Core} {after : Fabric ω}
    (assigned : core.assignId id fabric = .ok (next, after)) :
    core.setProperty idName (.text id) fabric = (.ok (), next, after) := by
  simp only [setProperty, writeProperty, if_pos, assigned]

theorem isIdLocked_assignId {id : String} {next : Core} {after : Fabric ω}
    (assigned : core.assignId id fabric = .ok (next, after)) : next.isIdLocked = true := by
  obtain ⟨-, -, ⟨_, _, _, _, there⟩, -, -⟩ := assignId_ok assigned
  rw [isIdLocked, there]
  rfl

theorem hasId_foldl_register (entries : List (String × Property)) {core : Core}
    (present : (core.properties.get? idName).isSome = true) :
    ((entries.foldl (fun core entry => core.register entry.1 entry.2) core).properties.get? idName).isSome = true := by
  induction entries generalizing core with
  | nil => exact present
  | cons entry entries ih =>
    refine ih ?_
    show ((core.properties.register entry.1 entry.2).get? idName).isSome = true
    rw [PropertyBag.get?_register]
    split
    · rfl
    · exact present

end Core

namespace Pipeline

/-- The ids in a pipeline are distinct and locked, and each leads to the stage that has it. -/
structure Addressed (pipeline : Pipeline σ) : Prop where
  distinct : (pipeline.stages.map Stage.id).Nodup
  locked : ∀ stage ∈ pipeline.stages, stage.core.isIdLocked = true
  found : ∀ id stage, pipeline.stage? id = some stage ↔ stage ∈ pipeline.stages ∧ stage.id = id

/-- Where the ids are distinct, the first stage with an id is the only one. -/
theorem stage?_eq_some_iff {pipeline : Pipeline σ} (distinct : (pipeline.stages.map Stage.id).Nodup) {id : String}
    {stage : Stage σ} : pipeline.stage? id = some stage ↔ stage ∈ pipeline.stages ∧ stage.id = id := by
  constructor
  · intro found
    have matched := List.find?_some found
    exact ⟨List.mem_of_find?_eq_some found, eq_of_beq matched⟩
  · rintro ⟨member, rfl⟩
    have there : (pipeline.stage? stage.id).isSome = true :=
      List.find?_isSome.mpr ⟨stage, member, beq_self_eq_true _⟩
    obtain ⟨first, found⟩ := Option.isSome_iff_exists.mp there
    have matched := List.find?_some found
    rw [found, List.inj_on_of_nodup_map distinct (List.mem_of_find?_eq_some found) member (eq_of_beq matched)]

end Pipeline

/-- What a locked id consists in: the bell of the stage, the id, and the name that the bell is shown under. -/
structure Nameplate where
  bell : BellId
  id : String
  owner : String

/-- What a constructor makes a stage of. Here the properties are registered, possibly one in place of the id. -/
structure Blueprint (σ : Type) where
  info : StageInfo
  inputs : List Port
  outputs : List Port
  entries : List (String × Property)
  body : σ

def Blueprint.build (plan : Blueprint σ) (fabric : Fabric ω) : Stage σ × Fabric ω :=
  let (core, fabric) := Core.make plan.info plan.inputs plan.outputs fabric
  (⟨plan.entries.foldl (fun core entry => core.register entry.1 entry.2) core, plan.body⟩, fabric)

/-- The constructors that come with the library build by blueprints. -/
theorem Builtin.build_of_constructor {kind : String} {make : Fabric ω → Stage Builtin × Fabric ω}
    (known : (kind, make) ∈ Builtin.constructors) :
    ∃ plan : Blueprint Builtin, ∀ fabric, make fabric = plan.build fabric := by
  simp only [Builtin.constructors, List.mem_cons, Prod.mk.injEq, List.not_mem_nil, or_false] at known
  rcases known with ⟨-, rfl⟩ | ⟨-, rfl⟩
  · exact ⟨⟨⟨SquareSource.name, SquareSource.description, Source.author⟩, [], [Source.framePort],
      SquareSettings.standard.properties, .inl ⟨SquareSource.ofSettings SquareSettings.standard⟩⟩, fun _ => rfl⟩
  · exact ⟨⟨BlobTracker.info, [BlobTracker.maskPort], [BlobTracker.annotatedPort, BlobTracker.touchesPort],
      BlobTracker.properties, .inr BlobTracker.Body.standard⟩, fun _ => rfl⟩

namespace Bench

/-- A stage on a bench. It has an id and a bell that is shown under some name; if its bell is on one of the nameplates,
then its id is locked, and is the one on the plate. -/
structure Entered (plates : Nameplate → Prop) (fabric : Fabric ω) (stage : Stage σ) : Prop where
  present : (stage.core.properties.get? idName).isSome = true
  known : (fabric.owner? stage.core.bell).isSome = true
  plated : ∀ plate, plates plate → stage.core.bell = plate.bell →
    stage.core.isIdLocked = true ∧ stage.id = plate.id

/-- Every bell on the nameplates is shown under the name there. -/
def Shown (plates : Nameplate → Prop) (fabric : Fabric ω) : Prop :=
  ∀ plate, plates plate → fabric.owner? plate.bell = some plate.owner

/-- The stages that are held and those in the pipeline, with regard to their ids. -/
structure Registered (plates : Nameplate → Prop) (held placed : List (Stage σ)) (fabric : Fabric ω) : Prop where
  distinct : ((held ++ placed).map fun stage => stage.core.bell).Nodup
  entered : ∀ stage ∈ held ++ placed, Entered plates fabric stage
  shown : Shown plates fabric
  locked : ∀ stage ∈ placed, stage.core.isIdLocked = true
  unique : (placed.map Stage.id).Nodup

section Registered

variable {plates : Nameplate → Prop} {stage next : Stage σ} {held before later placed stages : List (Stage σ)}
  {fabric after : Fabric ω}

theorem Entered.steps (entered : Entered plates fabric stage) (steps : IdSteps stage.core fabric next.core after)
    (shown : Shown plates fabric) : Entered plates after next ∧ Shown plates after := by
  have kept := steps.identified
  refine ⟨⟨kept.present entered.present, ?_, fun plate listed same => ?_⟩, fun plate listed => ?_⟩
  · rw [kept.bell]
    exact kept.known _ entered.known
  · obtain ⟨locked, id⟩ := entered.plated plate listed (kept.bell.symm.trans same)
    obtain ⟨still, same, -⟩ := kept.locked locked
    exact ⟨still, same.trans id⟩
  · by_cases own : plate.bell = stage.core.bell
    · obtain ⟨locked, -⟩ := entered.plated plate listed own.symm
      exact (kept.locked locked).2.2 _ _ (shown plate listed)
    · exact kept.others _ _ own (shown plate listed)

theorem Entered.replace (before : List (Stage σ))
    (entered : ∀ other ∈ before ++ stage :: later, Entered plates fabric other)
    (steps : IdSteps stage.core fabric next.core after) (shown : Shown plates fabric) :
    ∀ other ∈ before ++ next :: later, Entered plates after other := by
  intro other member
  rcases List.mem_cons.mp (List.perm_middle.mem_iff.mp member) with rfl | beside
  · exact ((entered stage List.mem_append_cons_self).steps steps shown).1
  · obtain ⟨present, known, plated⟩ := entered other (List.perm_middle.mem_iff.mpr (List.mem_cons_of_mem _ beside))
    exact ⟨present, steps.identified.known _ known, plated⟩

theorem map_bell_replace (before later : List (Stage σ)) (same : next.core.bell = stage.core.bell) :
    ((before ++ next :: later).map fun stage => stage.core.bell) =
      (before ++ stage :: later).map fun stage => stage.core.bell := by
  rw [List.map_append, List.map_append, List.map_cons, List.map_cons, same]

theorem Registered.shown_steps (registered : Registered plates held placed fabric) (member : stage ∈ held ++ placed)
    (steps : IdSteps stage.core fabric next.core after) : Shown plates after :=
  ((registered.entered stage member).steps steps registered.shown).2

/-- What a bench keeps about its ids. -/
theorem preserved_registered (plates : Nameplate → Prop) :
    Preserved (fun (stage : Stage σ) (fabric : Fabric ω) next after => IdSteps stage.core fabric next.core after)
      (Registered plates) where
  bell steps := steps.identified.bell
  distinct registered := registered.distinct
  perm {held others placed fabric} registered permuted := by
    have whole := permuted.append_right placed
    exact ⟨(whole.map _).nodup_iff.mp registered.distinct,
      fun stage member => registered.entered stage (whole.mem_iff.mpr member), registered.shown, registered.locked,
      registered.unique⟩
  sublist {held others placed fabric} registered fewer := by
    have whole := fewer.append_right placed
    exact ⟨registered.distinct.sublist (whole.map _),
      fun stage member => registered.entered stage (whole.subset member), registered.shown, registered.locked,
      registered.unique⟩
  held {stage held placed fabric next after} steps registered := by
    have shown := registered.shown_steps List.mem_cons_self steps
    refine ⟨?_, ?_, shown, registered.locked, registered.unique⟩
    · exact (map_bell_replace [] _ steps.identified.bell).symm ▸ registered.distinct
    · exact Entered.replace [] registered.entered steps registered.shown
  placed {stage held before later fabric next after} steps registered := by
    have showing := registered.shown_steps (List.mem_append_right _ List.mem_append_cons_self) steps
    obtain ⟨distinct, entered, shown, locked, unique⟩ := registered
    rw [← List.append_assoc] at distinct entered
    have still := steps.identified.locked (locked stage List.mem_append_cons_self)
    refine ⟨?_, ?_, showing, fun other member => ?_, ?_⟩
    · rw [← List.append_assoc, map_bell_replace _ _ steps.identified.bell]
      exact distinct
    · rw [← List.append_assoc]
      exact Entered.replace _ entered steps shown
    · rcases List.mem_cons.mp (List.perm_middle.mem_iff.mp member) with rfl | beside
      · exact still.1
      · exact locked other (List.perm_middle.mem_iff.mpr (List.mem_cons_of_mem _ beside))
    · have same : next.id = stage.id := still.2.1
      rw [List.map_append, List.map_cons, same, ← List.map_cons, ← List.map_append]
      exact unique
  added {stage held placed fabric} absent registered := by
    obtain ⟨distinct, entered, shown, locked, unique⟩ := registered
    let entrant : Stage σ := { stage with core := stage.core.lockId }
    have steps : IdSteps stage.core fabric entrant.core fabric := IdStep.lock.steps
    have present := (entered stage List.mem_cons_self).present
    have last : (entrant :: (held ++ placed)).Perm (held ++ (placed ++ [entrant])) := by
      rw [← List.append_assoc]
      exact (List.perm_append_singleton _ _).symm
    refine ⟨?_, fun other member => ?_, shown, fun other member => ?_, ?_⟩
    · refine (last.map _).nodup_iff.mp ?_
      exact (map_bell_replace [] _ steps.identified.bell).symm ▸ distinct
    · exact Entered.replace [] entered steps shown other (last.mem_iff.mpr member)
    · rcases List.mem_append.mp member with old | new
      · exact locked other old
      · cases List.mem_singleton.mp new
        exact Core.isIdLocked_lockId present
    · rw [List.map_append]
      refine (List.perm_append_singleton _ _).nodup_iff.mpr (List.nodup_cons.mpr ⟨fun old => ?_, unique⟩)
      obtain ⟨other, member, same⟩ := List.mem_map.mp old
      exact absent other member (same.trans (Core.id_lockId stage.core))
  removed {stage held before later fabric} registered := by
    have whole : (held ++ (before ++ stage :: later)).Perm (stage :: held ++ (before ++ later)) := by
      rw [← List.append_assoc, List.cons_append, ← List.append_assoc]
      exact List.perm_middle
    have fewer : (before ++ later).Sublist (before ++ stage :: later) :=
      (List.sublist_cons_self ..).append_left _
    exact ⟨(whole.map _).nodup_iff.mp registered.distinct,
      fun other member => registered.entered other (whole.mem_iff.mpr member), registered.shown,
      fun other member => registered.locked other (fewer.subset member), registered.unique.sublist (fewer.map _)⟩

theorem registered_build (registered : Registered plates held placed fabric) (plan : Blueprint σ) :
    Registered plates ((plan.build fabric).1 :: held) placed (plan.build fabric).2 := by
  have stay : OwnersStay fabric (plan.build fabric).2 := Core.ownersStay_make plan.info plan.inputs plan.outputs fabric
  have bell : (plan.build fabric).1.core.bell = ⟨fabric.bells.size⟩ :=
    (Core.alike_foldl_register plan.entries _).bell
  have fresh {other : BellId} (known : (fabric.owner? other).isSome = true) :
      other ≠ (plan.build fabric).1.core.bell := by
    rintro rfl
    rw [bell] at known
    simp [Fabric.owner?, Fabric.bell?] at known
  obtain ⟨identity, there, -, owner⟩ := named_make plan.info plan.inputs plan.outputs fabric
  refine ⟨?_, fun stage member => ?_, fun plate listed => stay _ _ (registered.shown plate listed),
    registered.locked, registered.unique⟩
  · rw [List.cons_append, List.map_cons, List.nodup_cons]
    refine ⟨fun member => ?_, registered.distinct⟩
    obtain ⟨other, listed, same⟩ := List.mem_map.mp member
    exact fresh (registered.entered other listed).known same
  · rcases List.mem_cons.mp member with rfl | old
    · refine ⟨Core.hasId_foldl_register plan.entries ?_, ?_, fun plate listed same => ?_⟩
      · exact Option.isSome_iff_exists.mpr ⟨identity, there⟩
      · rw [bell]
        exact Option.isSome_iff_exists.mpr ⟨_, owner⟩
      · have known : (fabric.owner? plate.bell).isSome = true := by rw [registered.shown plate listed]; rfl
        exact absurd same.symm (fresh known)
    · obtain ⟨present, known, plated⟩ := registered.entered stage old
      exact ⟨present, stay.known known, plated⟩

end Registered

/-- Where a controller finds a stage: under the name that it gave it, or in the pipeline by the id. -/
inductive Spot
  | named (name : String)
  | placed (id : String)

def at? (bench : Bench ω σ) : Spot → Option (Stage σ)
  | .named name => bench.stage? name
  | .placed id => bench.pipeline.stage? id

def alter (bench : Bench ω σ) (spot : Spot) (action : Core → Fabric ω → Core × Fabric ω) : Bench ω σ :=
  match spot with
  | .named name => match bench.stage? name with
    | none => bench
    | some stage =>
      let (core, fabric) := action stage.core bench.fabric
      bench.store name { stage with core } fabric
  | .placed id => match bench.pipeline.indexOf? id, bench.pipeline.stage? id with
    | some index, some stage =>
      let (core, fabric) := action stage.core bench.fabric
      { bench with
        pipeline := { bench.pipeline with stages := bench.pipeline.stages.set index { stage with core } }
        fabric }
    | _, _ => bench

/-- What a controller can do with stages of any kinds. -/
inductive Move (σ : Type)
  | build (name : String) (plan : Blueprint σ)
  | write (spot : Spot) (property : String) (value : Property.Value)
  | assign (spot : Spot) (id : String)
  | place (name : String)
  | takeBack (id : String)
  | connect (producer : String) (output : Nat) (consumer : String) (input : Nat)
  | start
  | stop
  | tick

/-- What is refused changes nothing. -/
def move [Behaviour ω σ] (bench : Bench ω σ) : Move σ → Bench ω σ
  | .build name plan =>
    let (stage, fabric) := plan.build bench.fabric
    bench.hold name stage fabric
  | .write spot property value => bench.alter spot fun core fabric => (core.setProperty property value fabric).2
  | .assign spot id => bench.alter spot fun core fabric =>
    match core.assignId id fabric with
    | .ok (core, fabric) => (core, fabric)
    | .error _ => (core, fabric)
  | .place name => match bench.place name with
    | none => bench
    | some (_, bench) => bench
  | .takeBack id => match bench.takeBack id with
    | .ok bench => bench
    | .error _ => bench
  | .connect producer output consumer input =>
    match bench.pipeline.connect producer output consumer input bench.fabric with
    | .ok (pipeline, fabric) => { bench with pipeline, fabric }
    | .error _ => bench
  | .start => bench.drive Pipeline.start
  | .stop => bench.drive Pipeline.stop
  | .tick => (ticks 1 bench).2

def moves [Behaviour ω σ] (bench : Bench ω σ) : List (Move σ) → Bench ω σ
  | [] => bench
  | move :: moves => (bench.move move).moves moves

def members (bench : Bench ω σ) : List (Stage σ) := bench.held.map Prod.snd ++ bench.pipeline.stages

section Moves

variable {plates : Nameplate → Prop} {bench : Bench ω σ}

theorem registered_alter (registered : bench.Has (Registered plates)) (spot : Spot)
    {action : Core → Fabric ω → Core × Fabric ω}
    (steps : ∀ core fabric, IdSteps core fabric (action core fabric).1 (action core fabric).2) :
    (bench.alter spot action).Has (Registered plates) := by
  have preserved := preserved_registered (ω := ω) (σ := σ) plates
  unfold alter
  cases spot with
  | named name =>
    simp only
    split
    next => exact registered
    next stage found => exact preserved.store registered found (steps stage.core bench.fabric)
  | placed id =>
    simp only
    split
    next index stage known found =>
      obtain ⟨before, later, split, changed⟩ :=
        Pipeline.set_indexOf? known found { stage with core := (action stage.core bench.fabric).1 }
      rw [Has, split] at registered
      simp only [Has, changed]
      exact preserved.placed (steps stage.core bench.fabric) registered
    next => exact registered

variable [Behaviour ω σ] (discreet : Discreet ω σ)

include discreet

theorem registered_move (registered : bench.Has (Registered plates)) (move : Move σ) :
    (bench.move move).Has (Registered plates) := by
  have preserved := preserved_registered (ω := ω) (σ := σ) plates
  cases move with
  | build name plan => exact preserved.hold bench (registered_build registered plan) name
  | write spot property value =>
    exact registered_alter registered spot fun core fabric => Core.idSteps_setProperty core fabric property value
  | assign spot id =>
    refine registered_alter registered spot fun core fabric => ?_
    split
    next assigned => exact (IdStep.assign assigned).steps
    next => exact .idle
  | place name =>
    simp only [Bench.move]
    split
    next => exact registered
    next done => exact preserved.place registered done
  | takeBack id =>
    simp only [Bench.move]
    split
    next done => exact preserved.takeBack discreet.loosen Pipeline.idSteps_detachAll registered done
    next => exact registered
  | connect producer output consumer input =>
    simp only [Bench.move]
    split
    next done =>
      exact preserved.connect (fun _ _ _ _ _ _ connected => Core.idSteps_setInput connected) registered done
    next => exact registered
  | start =>
    refine preserved.start (fun stage fabric => ?_) registered
    by_cases started : stage.isStarted = true
    · rw [if_pos started]
      exact .idle
    · rw [if_neg started]
      exact discreet.start stage fabric
  | stop => exact preserved.stop discreet.stop registered
  | tick => exact preserved.tick discreet.turn registered

theorem registered_moves (registered : bench.Has (Registered plates)) (moves : List (Move σ)) :
    (bench.moves moves).Has (Registered plates) := by
  induction moves generalizing bench with
  | nil => exact registered
  | cons move moves ih => exact ih (registered_move discreet registered move)

omit [Behaviour ω σ] discreet in
theorem registered_empty (surroundings : ω) : (empty surroundings : Bench ω σ).Has (Registered fun _ => False) where
  distinct := List.nodup_nil
  entered _ member := absurd member List.not_mem_nil
  shown _ := False.elim
  locked _ member := absurd member List.not_mem_nil
  unique := List.nodup_nil

end Moves

/-- From now on the bell is shown under the name on the plate, and the stage that has the bell, wherever it is, has
the id on the plate, which nothing can be written to. -/
structure Frozen (bench : Bench ω σ) (plate : Nameplate) : Prop where
  shown : bench.fabric.owner? plate.bell = some plate.owner
  stages : ∀ stage ∈ bench.members, stage.core.bell = plate.bell →
    stage.core.Settled bench.fabric ∧ stage.id = plate.id

theorem mem_held {bench : Bench ω σ} {name : String} {stage : Stage σ}
    (found : bench.held.lookup name = some stage) : stage ∈ bench.held.map Prod.snd := by
  obtain ⟨front, back, split, -⟩ := List.lookup_eq_some_iff.mp found
  simp [split]

theorem mem_of_at? {bench : Bench ω σ} {spot : Spot} {stage : Stage σ} (found : bench.at? spot = some stage) :
    stage ∈ bench.members := by
  cases spot with
  | named name =>
    have found : bench.stage? name = some stage := found
    unfold stage? at found
    split at found
    next held =>
      cases found
      exact List.mem_append_left _ (mem_held held)
    next =>
      obtain ⟨_, -, found⟩ := Option.bind_eq_some_iff.mp found
      exact List.mem_append_right _ (List.mem_of_find?_eq_some found)
  | placed id => exact List.mem_append_right _ (List.mem_of_find?_eq_some found)

theorem mem_alter {bench : Bench ω σ} {spot : Spot} {stage : Stage σ} (found : bench.at? spot = some stage)
    {action : Core → Fabric ω → Core × Fabric ω} {core : Core} {after : Fabric ω}
    (done : action stage.core bench.fabric = (core, after)) (same : core.bell = stage.core.bell) :
    { stage with core } ∈ (bench.alter spot action).members ∧ (bench.alter spot action).fabric = after := by
  cases spot with
  | named name =>
    have found : bench.stage? name = some stage := found
    simp only [alter, found, done]
    cases held : bench.held.lookup name with
    | some old =>
      have stored : bench.store name { stage with core } after = bench.hold name { stage with core } after := by
        simp [store, held]
      rw [stored]
      exact ⟨List.mem_cons_self, rfl⟩
    | none =>
      rw [stage?, held] at found
      obtain ⟨_, -, found⟩ := Option.bind_eq_some_iff.mp found
      simp only [store, held, Option.isSome_none, Bool.false_eq_true, if_false]
      refine ⟨List.mem_append_right _ (List.mem_map.mpr ⟨stage, List.mem_of_find?_eq_some found, ?_⟩), trivial⟩
      exact if_pos same.symm
  | placed id =>
    have found : bench.pipeline.stage? id = some stage := found
    cases known : bench.pipeline.indexOf? id with
    | none =>
      have matched := List.find?_some found
      have missed := List.findIdx?_eq_none_iff.mp known stage (List.mem_of_find?_eq_some found)
      exact absurd (missed.symm.trans matched) Bool.false_ne_true
    | some index =>
      obtain ⟨before, later, -, changed⟩ := Pipeline.set_indexOf? known found { stage with core }
      simp only [alter, known, found, done, members, changed]
      exact ⟨List.mem_append_right _ List.mem_append_cons_self, trivial⟩

/-- An id that can be assigned to the stage in a spot is assigned by either of the two ways to do it. -/
theorem mem_assign [Behaviour ω σ] {bench : Bench ω σ} {spot : Spot} {stage : Stage σ}
    (found : bench.at? spot = some stage) {id : String} {core : Core} {after : Fabric ω}
    (assigned : stage.core.assignId id bench.fabric = .ok (core, after)) :
    ∀ move ∈ [Move.assign spot id, Move.write spot idName (.text id)],
      { stage with core } ∈ (bench.move move).members ∧ (bench.move move).fabric = after := by
  have same : core.bell = stage.core.bell := by rw [(Core.assignId_ok assigned).2.1]
  intro move listed
  simp only [List.mem_cons, List.not_mem_nil, or_false] at listed
  rcases listed with rfl | rfl
  · exact mem_alter found (by rw [assigned]) same
  · exact mem_alter found (by rw [Core.setProperty_of_assignId assigned]) same

/-- A locked id makes a nameplate that holds from then on. -/
theorem frozen_moves [Behaviour ω σ] (discreet : Discreet ω σ) {bench : Bench ω σ} {plates : Nameplate → Prop}
    (registered : bench.Has (Registered plates)) {stage : Stage σ} (member : stage ∈ bench.members)
    (locked : stage.core.isIdLocked = true) :
    ∃ owner, ∀ future, (bench.moves future).Frozen ⟨stage.core.bell, stage.id, owner⟩ := by
  obtain ⟨distinct, entered, -, placed, unique⟩ := registered
  obtain ⟨owner, shown⟩ := Option.isSome_iff_exists.mp (entered stage member).known
  have plated : bench.Has (Registered (· = ⟨stage.core.bell, stage.id, owner⟩)) := by
    refine ⟨distinct, fun other listed => ⟨(entered other listed).present, (entered other listed).known, ?_⟩, ?_,
      placed, unique⟩
    · rintro _ rfl same
      cases List.inj_on_of_nodup_map distinct listed member same
      exact ⟨locked, rfl⟩
    · rintro _ rfl
      exact shown
  refine ⟨owner, fun future => ?_⟩
  have later := registered_moves discreet plated future
  refine ⟨later.shown _ rfl, fun other listed same => ?_⟩
  obtain ⟨locked, id⟩ := (later.entered other listed).plated _ rfl same
  exact ⟨Core.settled_of_locked locked, id⟩

/-- Whatever was done on a bench, with stages of any kinds: the ids in the pipeline are distinct and locked, and each
leads to the stage that has it. A stage that is taken into the pipeline keeps its id, and an id that is assigned is
shown on the bell; both are locked from then on. Where an id is locked, nothing that is done later, be it in the
pipeline or outside of it, can change the id of that stage, unlock it, or rename its bell; every write to it fails
and leaves nothing behind but the failure. -/
theorem ids_distinct_and_frozen [Behaviour ω σ] (discreet : Discreet ω σ) (surroundings : ω)
    (past : List (Move σ)) :
    let bench := (empty surroundings : Bench ω σ).moves past
    bench.pipeline.Addressed ∧ (bench.members.map fun stage => stage.core.bell).Nodup ∧
    (∀ name stage taken, bench.held.lookup name = some stage → bench.place name = some (.ok (), taken) →
      { stage with core := stage.core.lockId } ∈ taken.pipeline.stages ∧ stage.core.lockId.id = stage.id ∧
        stage.core.lockId.isIdLocked = true) ∧
    (∀ spot stage, bench.at? spot = some stage →
      ∀ id core after, stage.core.assignId id bench.fabric = .ok (core, after) →
      ∀ move ∈ [Move.assign spot id, Move.write spot idName (.text id)],
        { stage with core } ∈ (bench.move move).members ∧ core.isIdLocked = true ∧
        (bench.move move).fabric.owner? core.bell = some id ∧
        ∀ property, stage.core.properties.get? idName = some property → property.kind = .string → core.id = id) ∧
    ∀ stage ∈ bench.members, stage.core.isIdLocked = true →
      ∃ owner, ∀ future, (bench.moves future).Frozen ⟨stage.core.bell, stage.id, owner⟩ := by
  intro bench
  have bare := registered_moves discreet (registered_empty surroundings) past
  have addressed : bench.pipeline.Addressed :=
    ⟨bare.unique, bare.locked, fun id stage => Pipeline.stage?_eq_some_iff bare.unique⟩
  refine ⟨addressed, bare.distinct, ?_, ?_, ?_⟩
  · intro name stage taken held placed
    obtain ⟨other, found, done⟩ := Option.map_eq_some_iff.mp placed
    cases held.symm.trans found
    simp only at done
    split at done
    next => cases done
    next pipeline accepted =>
      cases done
      obtain ⟨rfl, -⟩ := Pipeline.add_ok accepted
      have present := (bare.entered stage (List.mem_append_left _ (mem_held held))).present
      exact ⟨List.mem_append_right _ List.mem_cons_self, Core.id_lockId _, Core.isIdLocked_lockId present⟩
  · intro spot stage found id core after assigned move listed
    have bell : core.bell = stage.core.bell := by rw [(Core.assignId_ok assigned).2.1]
    have known := (bare.entered stage (mem_of_at? found)).known
    have shown : after.owner? core.bell = some id := by
      rw [bell, Core.owner?_assignId assigned, if_pos rfl]
      obtain ⟨_, shown⟩ := Option.isSome_iff_exists.mp known
      rw [shown]
      rfl
    obtain ⟨there, same⟩ := mem_assign found assigned move listed
    refine ⟨there, Core.isIdLocked_assignId assigned, same ▸ shown, fun property here text => ?_⟩
    rw [Core.id, (Core.assignId_text here text assigned).2]
    rfl
  · intro stage member locked
    exact frozen_moves discreet bare member locked

def trackerPlan : Blueprint Builtin :=
  ⟨BlobTracker.info, [BlobTracker.maskPort], [BlobTracker.annotatedPort, BlobTracker.touchesPort],
    BlobTracker.properties, .inr BlobTracker.Body.standard⟩

/-- One tracker gets an id before it is placed, the other one is placed under its first id. -/
def twoPlaced : List (Move Builtin) :=
  [.build "first" trackerPlan, .build "second" trackerPlan, .assign (.named "first") "hands",
    .place "first", .place "second"]

/-- The tracker is renamed in the pipeline, and again when it was taken back, in vain. -/
def attempts : List (Move Builtin) :=
  [.write (.placed "hands") idName (.text "feet"), .takeBack "hands", .write (.named "first") idName (.bool true),
    .assign (.named "first") "feet", .place "first"]

theorem ids_distinct_and_frozen_renamed :
    let bench := (empty () : Bench Unit Builtin).moves twoPlaced
    let later := bench.moves attempts
    Discreet Unit Builtin ∧ bench.pipeline.stages.map Stage.id = ["hands", "SimpleBlobTracker1"] ∧
      later.pipeline.stages.map Stage.id = ["SimpleBlobTracker1", "hands"] ∧
      ∃ stage ∈ bench.pipeline.stages, stage.id = "hands" ∧ later.Frozen ⟨stage.core.bell, "hands", "hands"⟩ := by
  intro bench later
  refine ⟨Builtin.discreet_builtin, by decide +kernel, by decide +kernel, ?_⟩
  obtain ⟨addressed, -, -, -, frozen⟩ := ids_distinct_and_frozen Builtin.discreet_builtin () twoPlaced
  have known : (bench.pipeline.stage? "hands").map (fun stage => bench.fabric.owner? stage.core.bell) =
      some (some "hands") := by decide +kernel
  obtain ⟨stage, found, shown⟩ := Option.map_eq_some_iff.mp known
  obtain ⟨member, named⟩ := (addressed.found "hands" stage).mp found
  obtain ⟨owner, forever⟩ := frozen stage (List.mem_append_right _ member) (addressed.locked stage member)
  obtain rfl : owner = "hands" := Option.some.inj ((forever []).shown.symm.trans shown)
  exact ⟨stage, member, named, named ▸ forever attempts⟩

end Bench

end TouchTracking
