import TouchTracking.Proofs.Benches
import TouchTracking.Proofs.Naming

/-! The names on the bells. A bell is shown under a name wherever it is registered, and that name is the id of its
stage at any time: both change together when the id is assigned, and by nothing else. -/
namespace TouchTracking

open Builtin (Polled)
open TouchTracking.Core (IdStep IdSteps idSteps_of_same)
open Fabric (SameOwners OwnersStay)

variable {ω : Type}

namespace Core

variable {core next : Core} {fabric after : Fabric ω}

theorem assignId_text {property : Property} (found : core.properties.get? idName = some property)
    (text : property.kind = .string) {id : String} (assigned : core.assignId id fabric = .ok (next, after)) :
    next = { core with properties := next.properties } ∧
      next.properties.get? idName = some { property with value := .text id, readOnly := true } := by
  obtain ⟨-, same, ⟨old, new, here, taken, there⟩, -, -⟩ := assignId_ok assigned
  cases found.symm.trans here
  obtain ⟨-, converted, fits, -, rfl⟩ := Property.set_ok taken
  rw [text] at fits
  cases fits
  exact ⟨same, there⟩

/-- The bell of the stage is shown under its id, which is a text. -/
def Named (core : Core) (fabric : Fabric ω) : Prop :=
  ∃ property, core.properties.get? idName = some property ∧ property.kind = .string ∧
    fabric.owner? core.bell = some property.value.toText

theorem Named.owner (named : Named core fabric) : fabric.owner? core.bell = some core.id := by
  obtain ⟨property, found, -, shown⟩ := named
  rw [shown, id, found]

theorem Named.congr (named : Named core fabric) (bell : next.bell = core.bell)
    (same : next.properties.get? idName = core.properties.get? idName)
    (stay : ∀ owner, fabric.owner? core.bell = some owner → after.owner? core.bell = some owner) :
    Named next after := by
  obtain ⟨property, found, text, owner⟩ := named
  exact ⟨property, same.trans found, text, by rw [bell, stay _ owner]⟩

/-- Whatever is done to a stage, its bell goes on being shown under its id: a lock takes nothing away from the id, and
an assignment renames the bell with it. -/
theorem Named.step (named : Named core fabric) (step : IdStep core fabric next after) : Named next after := by
  cases step with
  | keep bell same stay => exact named.congr bell same (stay _)
  | lock =>
    obtain ⟨property, found, text, owner⟩ := named
    refine ⟨property.setReadOnly true, ?_, text, ?_⟩
    · rw [get?_idName_lockId, found]
      rfl
    · rw [lockId_same]
      exact owner
  | assign assigned =>
    obtain ⟨property, found, text, owner⟩ := named
    obtain ⟨same, there⟩ := assignId_text found text assigned
    refine ⟨_, there, text, ?_⟩
    rw [same, owner?_assignId assigned, if_pos rfl, owner]
    rfl

theorem Named.steps (named : Named core fabric) (steps : IdSteps core fabric next after) : Named next after := by
  induction steps with
  | idle => exact named
  | more _ step ih => exact ih.step step

end Core

open TouchTracking.Core (Named)

namespace Builtin

variable (fabric : Fabric ω) {after : Fabric ω}

/-! The hooks of the kinds of stage. None of them touches an id or a name. -/

theorem sameOwners_pushTo {core : Core} {port : Nat} {payload : Payload}
    (pushed : BlobTracker.pushTo core port payload fabric = .ok after) : SameOwners fabric after := by
  obtain ⟨_, _, accepted⟩ := BlobTracker.pushTo_ok pushed
  exact Fabric.sameOwners_push accepted

theorem sameOwners_publish (core : Core) (picture : Raster.Image) (touches : List Touch) :
    SameOwners fabric (BlobTracker.publish core picture touches fabric).2 := by
  unfold BlobTracker.publish
  split
  next => exact .refl fabric
  next drawn =>
    have first := sameOwners_pushTo fabric drawn
    split
    next => exact first
    next told => exact first.trans (sameOwners_pushTo _ told)

theorem idSteps_update (stage : Stage BlobTracker.Body) :
    IdSteps stage.core fabric (BlobTracker.update stage fabric).2.1.core (BlobTracker.update stage fabric).2.2 := by
  obtain ⟨phase, same⟩ := BlobTracker.core_update stage fabric
  have stay : SameOwners fabric (BlobTracker.update stage fabric).2.2 := by
    have step := BlobTracker.updated stage fabric
    generalize BlobTracker.update stage fabric = outcome at step
    cases step with
    | idle | misfit | colored | unseen => exact .refl fabric
    | tracked mask _ _ synced _ touches tracker _ picture _ result next published =>
      have told := sameOwners_publish fabric synced.core picture.image touches
      rwa [published] at told
  exact idSteps_of_same (by rw [same]) (by rw [same]) stay.stay

theorem idSteps_tick (stage : Stage (Source SquareSource)) :
    IdSteps stage.core fabric (Source.tick stage fabric).2.1.core (Source.tick stage fabric).2.2 := by
  have same := (tick_spec fabric stage).2
  have captured : SameOwners fabric
      { fabric with surroundings := (Camera.capture stage.body.camera fabric.surroundings).2.2 } := fun _ => rfl
  have stay : SameOwners fabric (Source.tick stage fabric).2.2 := by
    rcases Source.tick_fabric stage fabric with unpublished | ⟨_, _, -, accepted⟩
    · rw [unpublished]
      exact captured
    · exact captured.trans (Fabric.sameOwners_push accepted)
  exact idSteps_of_same (by rw [same]) (by rw [same]) stay.stay

/-- No hook of the stages that come with the library has anything to do with the names. -/
theorem discreet_builtin : Discreet ω Builtin where
  onStart stage fabric := by
    have handled := handled_onStart fabric stage
    obtain ⟨core, body⟩ := stage
    cases body with
    | inl source => exact idSteps_of_same handled.bell rfl (SameOwners.stay fun _ => rfl)
    | inr tracker =>
      refine idSteps_of_same handled.bell ?_ ?_
      · exact congrArg Core.properties (BlobTracker.core_onStart ⟨core, tracker⟩ fabric)
      · show OwnersStay fabric (BlobTracker.onStart ⟨core, tracker⟩ fabric).2.2
        rw [BlobTracker.fabric_onStart]
        exact .refl fabric
  onStop stage fabric := by
    obtain ⟨core, body⟩ := stage
    cases body <;> exact idSteps_of_same rfl rfl (SameOwners.stay fun _ => rfl)
  poll stage fabric := by
    have poll := polled fabric stage
    generalize Behaviour.poll stage fabric = outcome at poll
    cases poll with
    | off | quiet => exact .idle
    | ticked source kind _ outcome done =>
      have steps := idSteps_tick fabric ⟨stage.core, source⟩
      rw [done] at steps
      obtain ⟨result, next, after⟩ := outcome
      cases result with
      | ok => exact steps
      | error => exact steps.trans (idSteps_of_same rfl rfl (.refl after))
    | updated tracker kind _ _ outcome done =>
      have silenced : SameOwners fabric (fabric.silence stage.core.bell) :=
        Fabric.sameOwners_modifyBell fabric _ fun _ => rfl
      have steps := idSteps_update (fabric.silence stage.core.bell) ⟨stage.core, tracker⟩
      rw [done] at steps
      obtain ⟨result, next, after⟩ := outcome
      have seen := (idSteps_of_same rfl rfl silenced.stay).trans steps
      cases result with
      | ok => exact seen
      | error => exact seen.trans (idSteps_of_same rfl rfl (.refl after))

end Builtin

namespace Bench

theorem idSteps_perform (stage : Stage Builtin) (fabric : Fabric ω) (job : Job) :
    IdSteps stage.core fabric (job.perform stage fabric).1.core (job.perform stage fabric).2 := by
  cases job with
  | connect feed port =>
    simp only [Job.perform]
    split
    next =>
      split
      next connected => exact Core.idSteps_setInput connected
      next => exact .idle
    next => exact .idle
  | detachInputs => exact Core.idSteps_detachInputs stage.core fabric
  | detachFeed feed => exact Core.idSteps_detachFeed stage.core feed fabric
  | start => exact Builtin.discreet_builtin.start stage fabric
  | stop => exact Builtin.discreet_builtin.stop stage fabric
  | poll => exact Builtin.discreet_builtin.poll stage fabric
  | update =>
    obtain ⟨core, body⟩ := stage
    cases body with
    | inl source => exact .idle
    | inr tracker => exact Builtin.idSteps_update fabric ⟨core, tracker⟩
  | write name value => exact Core.idSteps_setProperty stage.core fabric name value

theorem idSteps_deed (stage : Stage Builtin) (fabric : Fabric ω) (deed : Deed) :
    IdSteps stage.core fabric (deed.perform stage fabric).1.core (deed.perform stage fabric).2 := by
  cases deed with
  | hand job => exact idSteps_perform stage fabric job
  | turn => exact Builtin.discreet_builtin.turn stage fabric
  | lock => exact IdStep.lock.steps

variable {fabric : Fabric ω}

theorem named_make (info : StageInfo) (inputs outputs : List Port) (fabric : Fabric ω) :
    Named (Core.make info inputs outputs fabric).1 (Core.make info inputs outputs fabric).2 := by
  let id := info.name ++ toString fabric.bells.size
  refine ⟨(Property.ofValue (.text id)).describedAs "Identifier of the module", ?_, rfl, ?_⟩
  · exact (PropertyBag.get?_register ..).trans (if_pos rfl)
  · refine (Core.sameOwners_addOutputs _ outputs _).trans ?_
    simp only [Core.make, Fabric.owner?, Fabric.bell?, Fabric.addBell, Array.getElem?_push_size]
    rfl

theorem named_register {core : Core} (named : Named core fabric) {name : String} (other : name ≠ idName)
    (property : Property) : Named (core.register name property) fabric := by
  refine named.congr rfl ?_ fun _ shown => shown
  rw [Core.register, PropertyBag.get?_register, if_neg (Ne.symm other)]

theorem named_foldl_register {core : Core} (named : Named core fabric) {entries : List (String × Property)}
    (others : ∀ entry ∈ entries, entry.1 ≠ idName) :
    Named (entries.foldl (fun core entry => core.register entry.1 entry.2) core) fabric := by
  induction entries generalizing core with
  | nil => exact named
  | cons entry entries ih =>
    have first := others entry List.mem_cons_self
    exact ih (named_register named first entry.2) fun entry later => others entry (List.mem_cons_of_mem _ later)

/-- Every stage on a bench has a bell that is shown under its id. -/
theorem named_invariant :
    Invariant fun stages (fabric : Fabric ω) => ∀ stage ∈ stages, Named stage.core fabric where
  perm named permuted stage member := named stage (permuted.mem_iff.mpr member)
  sublist named fewer stage member := named stage (fewer.subset member)
  made := by
    intro stages fabric kind make _ named known stage member
    obtain ⟨info, inputs, outputs, entries, core, after, -, others, -⟩ := constructed known fabric
    rw [after]
    rcases List.mem_cons.mp member with rfl | old
    · rw [core]
      exact named_foldl_register (named_make info inputs outputs fabric) others
    · obtain ⟨property, found, text, owner⟩ := named stage old
      refine ⟨property, found, text, ?_⟩
      exact Core.ownersStay_make info inputs outputs fabric _ _ owner
  done := by
    intro stage others fabric deed orderly named other member
    have steps := idSteps_deed stage fabric deed
    rcases List.mem_cons.mp member with rfl | beside
    · exact (named stage List.mem_cons_self).steps steps
    · have apart : other.core.bell ≠ stage.core.bell := fun same =>
        orderly.apart (same ▸ List.mem_map_of_mem beside)
      refine (named other (List.mem_cons_of_mem _ beside)).congr rfl rfl fun owner => ?_
      exact steps.identified.others _ owner apart
  pushed := by
    intro stages fabric feed payload after _ named accepted stage member
    exact (named stage member).congr rfl rfl ((Fabric.sameOwners_push accepted).stay _)
  extended _ _ _ named stage member := (named stage member).congr rfl rfl fun _ shown => shown

end Bench

end TouchTracking
