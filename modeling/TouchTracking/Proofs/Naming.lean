import TouchTracking.Proofs.Bags
import TouchTracking.Proofs.Bookkeeping
import TouchTracking.Proofs.Registrations

/-! The id of a stage and the name on its bell. Whatever is done to a stage, as far as these two are concerned it can
only lock the id, or assign it, which writes it, locks it and renames the bell. So an id that is locked is there for
good, and its bell is shown under one name from then on. Of the hooks of a kind of stage this is asked for; all else
that is done to a stage does no more by itself. -/
namespace TouchTracking

variable {ω σ : Type}

namespace Fabric

def owner? (fabric : Fabric ω) (bell : BellId) : Option String := (fabric.bell? bell).map Bell.owner

def SameOwners (fabric next : Fabric ω) : Prop := ∀ bell, next.owner? bell = fabric.owner? bell

variable {fabric middle next : Fabric ω}

theorem SameOwners.refl (fabric : Fabric ω) : SameOwners fabric fabric := fun _ => rfl

theorem SameOwners.trans (first : SameOwners fabric middle) (second : SameOwners middle next) :
    SameOwners fabric next :=
  fun bell => (second bell).trans (first bell)

/-- A change after which every bell that was there is shown under its name. -/
def OwnersStay (fabric next : Fabric ω) : Prop :=
  ∀ bell owner, fabric.owner? bell = some owner → next.owner? bell = some owner

theorem SameOwners.stay (same : SameOwners fabric next) : OwnersStay fabric next :=
  fun bell _ shown => (same bell).trans shown

theorem OwnersStay.refl (fabric : Fabric ω) : OwnersStay fabric fabric := fun _ _ shown => shown

theorem OwnersStay.trans (first : OwnersStay fabric middle) (second : OwnersStay middle next) :
    OwnersStay fabric next :=
  fun bell owner shown => second bell owner (first bell owner shown)

theorem OwnersStay.known {bell : BellId} (stay : OwnersStay fabric next)
    (shown : (fabric.owner? bell).isSome = true) : (next.owner? bell).isSome = true := by
  obtain ⟨owner, shown⟩ := Option.isSome_iff_exists.mp shown
  exact Option.isSome_iff_exists.mpr ⟨owner, stay bell owner shown⟩

theorem owner?_modifyBell (fabric : Fabric ω) (bell other : BellId) (change : Bell → Bell) :
    (fabric.modifyBell bell change).owner? other =
      if other = bell then (fabric.bell? bell).map fun bell => (change bell).owner
      else fabric.owner? other := by
  obtain ⟨index⟩ := bell
  obtain ⟨index'⟩ := other
  simp only [owner?, bell?, modifyBell, Array.getElem?_modify, BellId.mk.injEq, eq_comm]
  split
  next same =>
    subst same
    rw [Option.map_map]
    rfl
  next => rfl

theorem sameOwners_modifyBell (fabric : Fabric ω) (bell : BellId) {change : Bell → Bell}
    (kept : ∀ bell, (change bell).owner = bell.owner) : SameOwners fabric (fabric.modifyBell bell change) := by
  intro other
  rw [owner?_modifyBell]
  split
  next same =>
    subst same
    simp only [kept]
    rfl
  next => rfl

theorem sameOwners_foldl_ring (bells : List BellId) (fabric : Fabric ω) :
    SameOwners fabric (bells.foldl ring fabric) := by
  induction bells generalizing fabric with
  | nil => exact .refl fabric
  | cons bell bells ih =>
    have rung : SameOwners fabric (fabric.ring bell) := sameOwners_modifyBell fabric bell fun _ => rfl
    exact rung.trans (ih _)

theorem sameOwners_push {feed : FeedId} {payload : Payload} (accepted : fabric.push feed payload = .ok next) :
    SameOwners fabric next := by
  cases pushed feed accepted with
  | nowhere => exact .refl fabric
  | taken target pushed => exact sameOwners_foldl_ring pushed.observers _

theorem ownersStay_addBell (fabric : Fabric ω) (name : String) : OwnersStay fabric (fabric.addBell name).2 := by
  intro bell owner known
  obtain ⟨old, found, rfl⟩ := Option.map_eq_some_iff.mp known
  have inside := (Array.getElem?_eq_some_iff.mp found).1
  simp only [owner?, bell?, addBell, Array.getElem?_push_lt inside]
  exact congrArg (Option.map Bell.owner) ((Array.getElem?_eq_getElem inside).symm.trans found)

end Fabric

open Fabric (SameOwners OwnersStay)

namespace Core

variable {core middle next : Core} {fabric between after : Fabric ω}

theorem sameOwners_addOutputs (fabric : Fabric ω) (ports : List Port) :
    SameOwners fabric (addOutputs fabric ports).2 := by
  induction ports generalizing fabric with
  | nil => exact .refl fabric
  | cons port ports ih =>
    have added : SameOwners fabric (fabric.addFeed port.name port.format).2 := fun _ => rfl
    exact added.trans (ih _)

theorem ownersStay_make (info : StageInfo) (inputs outputs : List Port) (fabric : Fabric ω) :
    OwnersStay fabric (make info inputs outputs fabric).2 :=
  (Fabric.ownersStay_addBell fabric _).trans (sameOwners_addOutputs _ outputs).stay

theorem sameOwners_leave (core : Core) (feed : Option FeedId) (fabric : Fabric ω) :
    SameOwners fabric (core.leave feed fabric) := by
  cases feed <;> exact fun _ => rfl

theorem sameOwners_foldl_leave (core : Core) (inputs : List InputPort) (fabric : Fabric ω) :
    SameOwners fabric (inputs.foldl (fun fabric input => core.leave input.feed fabric) fabric) := by
  induction inputs generalizing fabric with
  | nil => exact .refl fabric
  | cons input inputs ih => exact (sameOwners_leave core input.feed fabric).trans (ih _)

theorem sameOwners_join (core : Core) (feed : Option FeedId) (fabric : Fabric ω) :
    SameOwners fabric (core.join feed fabric) := by
  cases feed with
  | none => exact .refl fabric
  | some feed =>
    have subscribed : SameOwners fabric (fabric.subscribe feed core.bell) := fun _ => rfl
    simp only [join]
    split
    · exact subscribed.trans (Fabric.sameOwners_modifyBell _ _ fun _ => rfl)
    · exact subscribed

theorem id_congr (same : next.properties.get? idName = core.properties.get? idName) : next.id = core.id := by
  rw [id, id, same]

theorem isIdLocked_congr (same : next.properties.get? idName = core.properties.get? idName) :
    next.isIdLocked = core.isIdLocked := by
  rw [isIdLocked, isIdLocked, same]

theorem lockId_eq {property : Property} (found : core.properties.get? idName = some property) :
    core.lockId = { core with properties := core.properties.replace idName (property.setReadOnly true) } := by
  simp [Core.lockId, PropertyBag.setReadOnly, found]

theorem lockId_same (core : Core) : core.lockId = { core with properties := core.lockId.properties } := by
  unfold lockId
  split <;> rfl

theorem get?_lockId {name : String} (other : name ≠ idName) :
    core.lockId.properties.get? name = core.properties.get? name := by
  cases found : core.properties.get? idName with
  | none => simp [lockId, PropertyBag.setReadOnly, found]
  | some property => rw [lockId_eq found, PropertyBag.get?_replace, if_neg other]

theorem get?_idName_lockId (core : Core) :
    core.lockId.properties.get? idName = (core.properties.get? idName).map (·.setReadOnly true) := by
  cases found : core.properties.get? idName with
  | none => simp [lockId, PropertyBag.setReadOnly, found]
  | some property => rw [lockId_eq found, PropertyBag.get?_replace, if_pos rfl, found]; rfl

theorem id_lockId (core : Core) : core.lockId.id = core.id := by
  rw [id, id, get?_idName_lockId]
  cases core.properties.get? idName <;> rfl

theorem isIdLocked_lockId (present : (core.properties.get? idName).isSome = true) :
    core.lockId.isIdLocked = true := by
  rw [isIdLocked, get?_idName_lockId]
  cases found : core.properties.get? idName with
  | none => rw [found] at present; cases present
  | some property => rfl

/-- An id can be assigned as long as it is not locked: it is written and locked, and the bell is renamed. -/
theorem assignId_ok {id : String} (assigned : core.assignId id fabric = .ok (next, after)) :
    core.isIdLocked = false ∧ next = { core with properties := next.properties } ∧
      (∃ old new, core.properties.get? idName = some old ∧ old.set (.text id) = .ok new ∧
        next.properties.get? idName = some (new.setReadOnly true)) ∧
      (∀ name, name ≠ idName → next.properties.get? name = core.properties.get? name) ∧
      after = fabric.modifyBell core.bell ({ · with owner := id }) := by
  unfold assignId at assigned
  split at assigned
  next => cases assigned
  next unlocked =>
    split at assigned
    next => cases assigned
    next =>
      split at assigned
      next => cases assigned
      next properties written =>
        cases assigned
        obtain ⟨old, new, here, taken, rest⟩ := PropertyBag.set_ok written
        have there : ({ core with properties } : Core).properties.get? idName = some new :=
          (rest idName).trans (if_pos rfl)
        refine ⟨Bool.eq_false_iff.mpr unlocked, ?_, ⟨old, new, here, taken, ?_⟩, fun name apart => ?_, rfl⟩
        · rw [lockId_eq there]
        · rw [get?_idName_lockId, there]
          rfl
        · rw [get?_lockId apart]
          exact (rest name).trans (if_neg apart)

theorem owner?_assignId {id : String} (assigned : core.assignId id fabric = .ok (next, after)) (bell : BellId) :
    after.owner? bell =
      if bell = core.bell then (fabric.owner? bell).map fun _ => id else fabric.owner? bell := by
  obtain ⟨-, -, -, -, rfl⟩ := assignId_ok assigned
  rw [Fabric.owner?_modifyBell]
  split
  next same =>
    subst same
    rw [Fabric.owner?, Option.map_map]
    rfl
  next => rfl

/-- One thing that is done to a stage, as far as it concerns its id and the names on the bells. -/
inductive IdStep (core : Core) (fabric : Fabric ω) : Core → Fabric ω → Prop
  | keep {next : Core} {after : Fabric ω} (bell : next.bell = core.bell)
      (same : next.properties.get? idName = core.properties.get? idName) (stay : OwnersStay fabric after) :
      IdStep core fabric next after
  | lock : IdStep core fabric core.lockId fabric
  | assign {id : String} {next : Core} {after : Fabric ω} (assigned : core.assignId id fabric = .ok (next, after)) :
      IdStep core fabric next after

/-- What a stage and the fabric have become by such things, one after the other. -/
inductive IdSteps (core : Core) (fabric : Fabric ω) : Core → Fabric ω → Prop
  | idle : IdSteps core fabric core fabric
  | more {middle next : Core} {between after : Fabric ω} (steps : IdSteps core fabric middle between)
      (step : IdStep middle between next after) : IdSteps core fabric next after

theorem IdStep.steps (step : IdStep core fabric next after) : IdSteps core fabric next after := .more .idle step

theorem IdSteps.trans (first : IdSteps core fabric middle between) (second : IdSteps middle between next after) :
    IdSteps core fabric next after := by
  induction second with
  | idle => exact first
  | more _ step ih => exact ih.more step

/-- Most of what is done touches neither the properties nor any name. -/
theorem idSteps_of_same (bell : next.bell = core.bell) (properties : next.properties = core.properties)
    (stay : OwnersStay fabric after) : IdSteps core fabric next after :=
  (IdStep.keep bell (by rw [properties]) stay).steps

/-- What can be relied on whatever was done: there is an id, the other bells are shown under their names, and if the
id was locked then it is locked, the same as it was, and shown on the bell as before. -/
structure Identified (core : Core) (fabric : Fabric ω) (next : Core) (after : Fabric ω) : Prop where
  bell : next.bell = core.bell
  present : (core.properties.get? idName).isSome = true → (next.properties.get? idName).isSome = true
  known : ∀ bell, (fabric.owner? bell).isSome = true → (after.owner? bell).isSome = true
  others : ∀ bell owner, bell ≠ core.bell → fabric.owner? bell = some owner → after.owner? bell = some owner
  locked : core.isIdLocked = true → next.isIdLocked = true ∧ next.id = core.id ∧ OwnersStay fabric after

theorem Identified.refl (core : Core) (fabric : Fabric ω) : Identified core fabric core fabric :=
  ⟨rfl, fun present => present, fun _ shown => shown, fun _ _ _ shown => shown,
    fun locked => ⟨locked, rfl, .refl fabric⟩⟩

theorem Identified.trans (first : Identified core fabric middle between)
    (second : Identified middle between next after) : Identified core fabric next after where
  bell := second.bell.trans first.bell
  present there := second.present (first.present there)
  known bell shown := second.known bell (first.known bell shown)
  others bell owner apart shown := second.others bell owner (first.bell ▸ apart) (first.others bell owner apart shown)
  locked lock := by
    obtain ⟨still, same, stay⟩ := first.locked lock
    obtain ⟨still', same', stay'⟩ := second.locked still
    exact ⟨still', same'.trans same, stay.trans stay'⟩

theorem IdStep.identified (step : IdStep core fabric next after) : Identified core fabric next after := by
  cases step with
  | keep bell same stay =>
    refine ⟨bell, fun present => same ▸ present, fun _ => stay.known, fun bell owner _ => stay bell owner,
      fun locked => ⟨(isIdLocked_congr same).trans locked, id_congr same, stay⟩⟩
  | lock =>
    have same : core.lockId.bell = core.bell := by rw [lockId_same]
    refine ⟨same, fun present => ?_, fun _ shown => shown, fun _ _ _ shown => shown, fun locked => ?_⟩
    · rw [get?_idName_lockId, Option.isSome_map]
      exact present
    · have present : (core.properties.get? idName).isSome = true := by
        cases found : core.properties.get? idName with
        | none => rw [isIdLocked, found] at locked; cases locked
        | some property => rfl
      exact ⟨isIdLocked_lockId present, id_lockId core, .refl fabric⟩
  | assign assigned =>
    obtain ⟨unlocked, same, ⟨_, _, _, _, there⟩, -, -⟩ := assignId_ok assigned
    refine ⟨by rw [same], fun _ => by rw [there]; rfl, fun bell shown => ?_, fun bell owner apart shown => ?_,
      fun locked => absurd (unlocked.symm.trans locked) Bool.false_ne_true⟩
    · rw [owner?_assignId assigned]
      split
      · rwa [Option.isSome_map]
      · exact shown
    · rw [owner?_assignId assigned, if_neg apart, shown]

theorem IdSteps.identified (steps : IdSteps core fabric next after) : Identified core fabric next after := by
  induction steps with
  | idle => exact .refl core fabric
  | more _ step ih => exact ih.trans step.identified

/-- A write assigns the id, or has nothing to do with it. -/
theorem idSteps_setProperty (core : Core) (fabric : Fabric ω) (name : String) (value : Property.Value) :
    let written := (core.setProperty name value fabric).2
    IdSteps core fabric written.1 written.2 := by
  intro written
  simp only [written, setProperty]
  split
  next core' after done =>
    unfold writeProperty at done
    split at done
    next =>
      split at done
      next => exact (IdStep.assign done).steps
      next => cases done
    next apart =>
      split at done
      next => cases done
      next properties taken =>
        cases done
        obtain ⟨_, _, -, -, rest⟩ := PropertyBag.set_ok taken
        have same := (rest idName).trans (if_neg (Ne.symm apart))
        have step : IdStep core fabric { core with properties } fabric := .keep rfl same (.refl fabric)
        exact step.steps
  next => exact idSteps_of_same rfl rfl (.refl fabric)

theorem idSteps_setInput {feed : Option FeedId} {port : Nat}
    (connected : core.setInput feed port fabric = .ok (next, after)) : IdSteps core fabric next after := by
  obtain ⟨-, -, rfl, rfl⟩ := setInput_ok connected
  exact idSteps_of_same rfl rfl ((sameOwners_leave core _ fabric).trans (sameOwners_join core feed _)).stay

theorem idSteps_detachInputs (core : Core) (fabric : Fabric ω) :
    IdSteps core fabric (core.detachInputs fabric).1 (core.detachInputs fabric).2 :=
  idSteps_of_same rfl rfl (sameOwners_foldl_leave core core.inputs fabric).stay

theorem idSteps_detachFeed (core : Core) (feed : FeedId) (fabric : Fabric ω) :
    IdSteps core fabric (core.detachFeed feed fabric).1 (core.detachFeed feed fabric).2 := by
  unfold detachFeed
  split <;> exact idSteps_of_same rfl rfl fun _ _ shown => shown

end Core

open TouchTracking.Core (IdStep IdSteps idSteps_of_same)

/-- Of the id of a stage, and of the names on the bells, the hooks of its kind change nothing but by locking the id
or assigning it. -/
structure Discreet (ω σ : Type) [Behaviour ω σ] : Prop where
  onStart : ∀ (stage : Stage σ) (fabric : Fabric ω),
    IdSteps stage.core fabric (Behaviour.onStart stage fabric).2.1.core (Behaviour.onStart stage fabric).2.2
  onStop : ∀ (stage : Stage σ) (fabric : Fabric ω),
    IdSteps stage.core fabric (Behaviour.onStop stage fabric).1.core (Behaviour.onStop stage fabric).2
  poll : ∀ (stage : Stage σ) (fabric : Fabric ω),
    IdSteps stage.core fabric (Behaviour.poll stage fabric).2.1.core (Behaviour.poll stage fabric).2.2

theorem Pipeline.idSteps_detachAll (feeds : List FeedId) (stage : Stage σ) (fabric : Fabric ω) :
    IdSteps stage.core fabric (detachAll feeds stage fabric).1.core (detachAll feeds stage fabric).2 := by
  induction feeds generalizing stage fabric with
  | nil => exact .idle
  | cons feed feeds ih =>
    have first := Core.idSteps_detachFeed stage.core feed fabric
    exact first.trans (ih { stage with core := (stage.core.detachFeed feed fabric).1 } _)

namespace Discreet

variable [Behaviour ω σ] (discreet : Discreet ω σ) (stage : Stage σ) (fabric : Fabric ω)

include discreet

theorem start : IdSteps stage.core fabric (stage.start fabric).2.1.core (stage.start fabric).2.2 := by
  have begun := discreet.onStart stage fabric
  unfold Stage.start
  split
  next => exact .idle
  next =>
    generalize Behaviour.onStart stage fabric = outcome at begun
    obtain ⟨result, next, after⟩ := outcome
    cases result <;> exact begun.trans (idSteps_of_same rfl rfl (.refl _))

theorem stop : IdSteps stage.core fabric (stage.stop fabric).1.core (stage.stop fabric).2 := by
  have done := discreet.onStop stage fabric
  unfold Stage.stop Stage.stopBy
  split
  next => exact done.trans (idSteps_of_same rfl rfl (.refl _))
  next => exact .idle

theorem loosen :
    let stopped := stage.stop fabric
    let loose := stopped.1.core.detachInputs stopped.2
    IdSteps stage.core fabric loose.1 loose.2 :=
  (discreet.stop stage fabric).trans (Core.idSteps_detachInputs _ _)

theorem turn : IdSteps stage.core fabric (Pipeline.turn stage fabric).2.1.core (Pipeline.turn stage fabric).2.2 := by
  unfold Pipeline.turn
  split
  next =>
    have looked : SameOwners fabric (Pipeline.takeSince stage fabric).2 := by
      unfold Pipeline.takeSince
      split
      · exact Fabric.sameOwners_modifyBell _ _ fun _ => rfl
      · exact .refl fabric
    have polled := discreet.poll stage (Pipeline.takeSince stage fabric).2
    refine ((idSteps_of_same rfl rfl looked.stay).trans polled).trans ?_
    refine idSteps_of_same ?_ ?_ (.refl _)
    · simp only
      split <;> rfl
    · simp only
      split <;> rfl
  next => exact .idle

end Discreet

end TouchTracking
