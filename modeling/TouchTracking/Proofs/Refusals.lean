import TouchTracking.Proofs.Bags
import TouchTracking.Proofs.Custody

/-! Requests that are refused. The library gives back either a new state or a failure. A program that keeps one state
and changes it on the way could stop halfway: a connection that is refused could have cost the one that was there. Here
all requests that may be refused are carried out like that, on a state in place, one check and one change after the
other. They end where the library ends, and those that are refused end where they began. -/
namespace TouchTracking

/-- A call that works on a state in place. One that fails leaves the state as it has made it by then. -/
abbrev InPlace (ς α : Type) := EStateM Failure ς α

namespace InPlace

variable {ς α β : Type}

def demand (wanted : Option α) (failure : Failure) : InPlace ς α :=
  match wanted with
  | none => throw failure
  | some found => pure found

def require (condition : Prop) [Decidable condition] (failure : Failure) : InPlace ς Unit :=
  if condition then pure () else throw failure

def forbid (reason : Option Failure) : InPlace ς Unit :=
  match reason with
  | none => pure ()
  | some failure => throw failure

/-- How a call ends that either succeeds or leaves the state as it was. -/
def allOrNothing (before : ς) : Except Failure ς → EStateM.Result Failure ς Unit
  | .ok after => .ok () after
  | .error failure => .error failure before

def failure? : EStateM.Result Failure ς α → Option Failure
  | .ok .. => none
  | .error failure _ => some failure

theorem exists_of_failure? {result : EStateM.Result Failure ς α} {failure : Failure}
    (failed : failure? result = some failure) : ∃ after, result = .error failure after := by
  cases result with
  | ok => cases failed
  | error failure after =>
    cases failed
    exact ⟨after, rfl⟩

section Runs

variable (next : α → InPlace ς β) (rest : Unit → InPlace ς β) (failure : Failure) (state : ς)

theorem bind_run (call : InPlace ς α) : (call >>= next) state =
    match call state with
    | .ok value after => next value after
    | .error failure after => .error failure after := by
  change EStateM.bind call next state = _
  rw [EStateM.bind]
  cases call state <;> rfl

theorem catch_run (call : InPlace ς α) (rescue : Failure → InPlace ς α) : tryCatch call rescue state =
    match call state with
    | .ok value after => .ok value after
    | .error failure after => rescue failure after := by
  change EStateM.tryCatch call rescue state = _
  rw [EStateM.tryCatch]
  cases call state <;> rfl

theorem get_bind (next : ς → InPlace ς β) : (get >>= next) state = next state state := rfl

theorem modify_bind (change : ς → ς) : (modify change >>= rest) state = rest () (change state) := rfl

theorem modify_run (change : ς → ς) : (modify change : InPlace ς Unit) state = .ok () (change state) := rfl

theorem demand_bind (wanted : Option α) : (demand wanted failure >>= next) state =
    match wanted with
    | none => .error failure state
    | some found => next found state := by
  cases wanted <;> rfl

theorem require_bind (condition : Prop) [Decidable condition] : (require condition failure >>= rest) state =
    if condition then rest () state else .error failure state := by
  unfold require
  split <;> rfl

theorem forbid_bind (reason : Option Failure) : (forbid reason >>= rest) state =
    match reason with
    | none => rest () state
    | some failure => .error failure state := by
  cases reason <;> rfl

end Runs

end InPlace

open InPlace

namespace Core

variable {ω : Type}

/-- Puts a feed, or none, in the place of what an input is connected to. -/
def plug (core : Core) (port : Nat) (feed : Option FeedId) : Core :=
  { core with inputs := core.inputs.modify port ({ · with feed }) }

theorem plug_plug (core : Core) (port : Nat) (first second : Option FeedId) :
    (core.plug port first).plug port second = core.plug port second := by
  simp only [plug, List.modify_modify_eq]
  rfl

/-- Connects an input in place. The old feed is left, with the input empty, before the new one is joined. -/
def rewire (feed : Option FeedId) (port : Nat) : InPlace (Core × Fabric ω) Unit := do
  let (core, fabric) ← get
  let input ← demand core.inputs[port]? (WiringError.noInput core.id port).failure
  forbid <| (feed.bind fabric.feed?).bind fun target =>
    if target.format = input.port.format then none
    else some (WiringError.wrongFormat core.id port input.port.format target.format).failure
  modify fun (core, fabric) => (core.plug port none, core.leave input.feed fabric)
  modify fun (core, fabric) => (core, core.join feed fabric)
  modify fun (core, fabric) => (core.plug port feed, fabric)

theorem rewire_eq (feed : Option FeedId) (port : Nat) (core : Core) (fabric : Fabric ω) :
    rewire feed port (core, fabric) =
      allOrNothing (core, fabric) ((core.setInput feed port fabric).mapError WiringError.failure) := by
  simp only [rewire, get_bind, demand_bind, forbid_bind, modify_bind, modify_run]
  unfold setInput wiringError?
  cases here : core.inputs[port]? with
  | none => rfl
  | some input =>
    have connected : core.input? port = input.feed := by rw [input?, here]; rfl
    cases found : feed.bind fabric.feed? with
    | none =>
      simp only [plug_plug, connected]
      rfl
    | some target =>
      by_cases same : target.format = input.port.format
      · simp only [Option.bind_some, if_pos same, plug_plug, connected]
        rfl
      · simp only [Option.bind_some, if_neg same]
        rfl

def overwrite (name : String) (value : Property.Value) : InPlace (Core × Fabric ω) Unit := do
  let (core, _) ← get
  let refusal (reason : Property.WriteError) := (PropertyBag.BagError.refused name reason).failure
  let property ← demand (core.properties.get? name) (PropertyBag.BagError.unknown name).failure
  require (property.readOnly = false) (refusal .readOnly)
  let converted ← demand (Property.convert property.kind value) (refusal (.unconvertible value property.kind))
  forbid ((property.violation converted).map refusal)
  modify fun (core, fabric) =>
    ({ core with properties := core.properties.replace name { property with value := converted } }, fabric)

theorem overwrite_eq (name : String) (value : Property.Value) (core : Core) (fabric : Fabric ω) :
    overwrite name value (core, fabric) =
      allOrNothing (core, fabric) (((core.properties.set name value).mapError PropertyBag.BagError.failure).map
        fun properties => ({ core with properties }, fabric)) := by
  simp only [overwrite, get_bind, demand_bind, require_bind, forbid_bind, modify_run]
  unfold PropertyBag.set
  cases found : core.properties.get? name with
  | none => rfl
  | some property =>
    simp only [Property.set]
    cases property.readOnly with
    | true => rfl
    | false =>
      cases Property.convert property.kind value with
      | none => rfl
      | some converted =>
        simp only [if_true, Bool.false_eq_true, if_false]
        cases property.violation converted <;> rfl

def freeze (name : String) : InPlace (Core × Fabric ω) Unit := do
  let (core, _) ← get
  let property ← demand (core.properties.get? name) (PropertyBag.BagError.unknown name).failure
  modify fun (core, fabric) =>
    ({ core with properties := core.properties.replace name (property.setReadOnly true) }, fabric)

/-- Gives the stage its id in place. The lock comes last: were it to fail, the id would be written already. -/
def entitle (id : String) : InPlace (Core × Fabric ω) Unit := do
  let (core, _) ← get
  require (core.isIdLocked = false) (IdError.assigned core.id).failure
  require (isStageId id) (IdError.malformed id).failure
  overwrite idName (.text id)
  freeze idName
  modify fun (core, fabric) => (core, fabric.modifyBell core.bell ({ · with owner := id }))

theorem freeze_lockId {core : Core} {fabric : Fabric ω} {property : Property}
    (found : core.properties.get? idName = some property) :
    freeze idName (core, fabric) = .ok () (core.lockId, fabric) := by
  simp only [freeze, get_bind, demand_bind, found, modify_run, lockId_eq found]

theorem entitle_eq (id : String) (core : Core) (fabric : Fabric ω) :
    entitle id (core, fabric) = allOrNothing (core, fabric) (core.assignId id fabric) := by
  simp only [entitle, get_bind, require_bind]
  unfold assignId checkId
  cases core.isIdLocked with
  | true => rfl
  | false =>
    cases isStageId id with
    | false => rfl
    | true =>
      simp only [if_true, Bool.false_eq_true, if_false]
      rw [bind_run, overwrite_eq]
      cases written : core.properties.set idName (.text id) with
      | error => rfl
      | ok properties =>
        obtain ⟨-, property, -, -, found⟩ := PropertyBag.set_ok written
        have there : properties.get? idName = some property := (found idName).trans (if_pos rfl)
        have locked : freeze idName ({ core with properties }, fabric) = _ := freeze_lockId there
        simp only [Except.mapError, Except.map, allOrNothing, bind_run, locked, modify_run]
        rw [lockId_same]

/-- Writes a property in place; the id can only be written as an assignment. -/
def enter (name : String) (value : Property.Value) : InPlace (Core × Fabric ω) Unit :=
  if name = idName then
    match value with
    | .text id => entitle id
    | other => throw (IdError.notText other.kind).failure
  else overwrite name value

theorem enter_eq (name : String) (value : Property.Value) (core : Core) (fabric : Fabric ω) :
    enter name value (core, fabric) = allOrNothing (core, fabric) (core.writeProperty name value fabric) := by
  unfold enter writeProperty
  by_cases named : name = idName
  · rw [if_pos named, if_pos named]
    cases value with
    | text id => exact entitle_eq id core fabric
    | bool | int | double => rfl
  · rw [if_neg named, if_neg named, overwrite_eq]
    cases core.properties.set name value <;> rfl

/-- Writes a property in place and keeps a failure as the latest one. -/
def enterOrFail (name : String) (value : Property.Value) : InPlace (Core × Fabric ω) Unit := do
  try enter name value
  catch failure =>
    modify fun (core, fabric) => (core.fail failure, fabric)
    throw failure

theorem enterOrFail_eq (name : String) (value : Property.Value) (core : Core) (fabric : Fabric ω) :
    enterOrFail name value (core, fabric) =
      match core.setProperty name value fabric with
      | (.ok (), next) => .ok () next
      | (.error failure, next) => .error failure next := by
  simp only [enterOrFail, catch_run, enter_eq, setProperty]
  cases core.writeProperty name value fabric <;> rfl

/-- Why an input cannot be connected to a feed. -/
inductive Misfit (core : Core) (feed : Option FeedId) (port : Nat) (fabric : Fabric ω) : Failure → Prop
  | noInput (outside : core.inputs.length ≤ port) :
      Misfit core feed port fabric (WiringError.noInput core.id port).failure
  | wrongFormat {input : InputPort} {id : FeedId} {target : Feed BellId} (here : core.inputs[port]? = some input)
      (asked : feed = some id) (found : fabric.feed? id = some target) (other : target.format ≠ input.port.format) :
      Misfit core feed port fabric (WiringError.wrongFormat core.id port input.port.format target.format).failure

variable {core : Core} {feed : Option FeedId} {port : Nat} {fabric : Fabric ω}

theorem misfit_of_wiringError? {error : WiringError} (wrong : core.wiringError? feed port fabric = some error) :
    core.Misfit feed port fabric error.failure := by
  unfold wiringError? at wrong
  split at wrong
  next missing =>
    cases wrong
    exact .noInput (List.getElem?_eq_none_iff.mp missing)
  next input here =>
    split at wrong
    next => cases wrong
    next target fed =>
      split at wrong
      next => cases wrong
      next other =>
        cases wrong
        obtain ⟨id, asked, found⟩ := Option.bind_eq_some_iff.mp fed
        exact .wrongFormat here asked found other

theorem setInput_eq_error_iff {error : WiringError} :
    core.setInput feed port fabric = .error error ↔ core.wiringError? feed port fabric = some error := by
  unfold setInput
  cases core.wiringError? feed port fabric <;> simp

theorem setInput_error_iff {failure : Failure} :
    (∃ error, core.setInput feed port fabric = .error error ∧ error.failure = failure) ↔
      core.Misfit feed port fabric failure := by
  simp only [setInput_eq_error_iff]
  constructor
  · rintro ⟨error, wrong, rfl⟩
    exact misfit_of_wiringError? wrong
  · intro misfit
    cases misfit with
    | noInput outside => exact ⟨_, by rw [wiringError?, List.getElem?_eq_none outside], rfl⟩
    | wrongFormat here asked found other =>
      refine ⟨_, ?_, rfl⟩
      simp only [wiringError?, here, asked, Option.bind_some, found, if_neg other]

end Core

namespace Pipeline

variable {σ : Type} {pipeline : Pipeline σ} {id : String} {stage : Stage σ}

theorem indexOf?_eq_none_iff : pipeline.indexOf? id = none ↔ ∀ stage ∈ pipeline.stages, stage.id ≠ id := by
  simp [indexOf?, List.findIdx?_eq_none_iff]

theorem stage?_eq_none_iff : pipeline.stage? id = none ↔ ∀ stage ∈ pipeline.stages, stage.id ≠ id := by
  simp [stage?, List.find?_eq_none]

theorem exists_index (found : pipeline.stage? id = some stage) :
    ∃ index, pipeline.indexOf? id = some index ∧ pipeline.stages[index]? = some stage := by
  cases known : pipeline.indexOf? id with
  | none => exact absurd (stage?_eq_none_iff.mpr (indexOf?_eq_none_iff.mp known)) (found ▸ Option.some_ne_none stage)
  | some index => exact ⟨index, rfl, getElem?_indexOf? known found⟩

end Pipeline

namespace Custody

open Pipeline (PipelineError)

variable {ω σ : Type}

def at? (custody : Custody ω σ) : Keeper → Option (Stage σ)
  | .caller index => custody.held[index]?
  | .pipeline id => custody.pipeline.stage? id

def put (custody : Custody ω σ) (stage : Stage σ) (fabric : Fabric ω) : Keeper → Custody ω σ
  | .caller index => { custody with held := custody.held.set index stage, fabric }
  | .pipeline id => match custody.pipeline.indexOf? id with
    | none => { custody with fabric }
    | some index =>
      { custody with
        pipeline := { custody.pipeline with stages := custody.pipeline.stages.set index stage }
        fabric }

variable {custody : Custody ω σ} {stage : Stage σ} {keeper : Keeper}

theorem put_self (found : custody.at? keeper = some stage) : custody.put stage custody.fabric keeper = custody := by
  cases keeper with
  | caller index =>
    obtain ⟨inside, rfl⟩ := List.getElem?_eq_some_iff.mp found
    simp only [put, List.set_getElem_self]
  | pipeline id =>
    obtain ⟨index, known, there⟩ := Pipeline.exists_index found
    obtain ⟨inside, rfl⟩ := List.getElem?_eq_some_iff.mp there
    simp only [put, known, List.set_getElem_self]

@[simp] theorem fabric_put (custody : Custody ω σ) (stage : Stage σ) (fabric : Fabric ω) (keeper : Keeper) :
    (custody.put stage fabric keeper).fabric = fabric := by
  unfold put
  repeat' split
  all_goals rfl

theorem handle_eq [Behaviour ω σ] (custody : Custody ω σ) (job : Job) (keeper : Keeper) :
    custody.handle job keeper = match custody.at? keeper with
      | none => custody
      | some stage =>
        custody.put (job.perform stage custody.fabric).1 (job.perform stage custody.fabric).2 keeper := by
  cases keeper with
  | caller index => rfl
  | pipeline id =>
    simp only [handle, at?]
    cases found : custody.pipeline.stage? id with
    | none => cases custody.pipeline.indexOf? id <;> rfl
    | some stage =>
      obtain ⟨index, known, -⟩ := Pipeline.exists_index found
      simp only [put, known]

/-- Works in place on what someone has; where there is no stage, nothing happens. -/
def onCore (call : InPlace (Core × Fabric ω) Unit) (keeper : Keeper) : InPlace (Custody ω σ) Unit := fun custody =>
  match custody.at? keeper with
  | none => .ok () custody
  | some stage => match call (stage.core, custody.fabric) with
    | .ok () (core, fabric) => .ok () (custody.put { stage with core } fabric keeper)
    | .error failure (core, fabric) => .error failure (custody.put { stage with core } fabric keeper)

/-- What a caller can ask for that may be refused. -/
inductive Request
  | add (index : Nat)
  | remove (id : String)
  | connect (producer : String) (output : Nat) (consumer : String) (input : Nat)
  | setInput (keeper : Keeper) (feed : Option FeedId) (port : Nat)
  | setProperty (keeper : Keeper) (name : String) (value : Property.Value)

/-- Hands a stage to the pipeline in place. The caller has let go of it before the pipeline looks at its id. -/
def handOver (index : Nat) : InPlace (Custody ω σ) Unit := do
  let custody ← get
  match custody.held[index]? with
  | none => pure ()
  | some stage =>
    modify fun custody => { custody with held := custody.held.eraseIdx index }
    if (custody.pipeline.stage? stage.id).isSome then
      modify fun custody => { custody with dropped := custody.dropped ++ [stage] }
      throw (PipelineError.duplicate stage.id).failure
    else
      modify fun custody => { custody with pipeline := { custody.pipeline with
        stages := custody.pipeline.stages ++ [{ stage with core := stage.core.lockId }] } }

/-- Takes a stage out in place. It is out before it is stopped and disconnected, and the others after it. -/
def takeOut [Behaviour ω σ] (id : String) : InPlace (Custody ω σ) Unit := do
  let custody ← get
  let index ← demand (custody.pipeline.indexOf? id) (PipelineError.noStage id).failure
  let stage ← demand custody.pipeline.stages[index]? (PipelineError.noStage id).failure
  modify fun custody => { custody with
    pipeline := { custody.pipeline with stages := custody.pipeline.stages.eraseIdx index } }
  let (stage, fabric) := stage.stop custody.fabric
  let (core, fabric) := stage.core.detachInputs fabric
  modify fun custody => { custody with held := { stage with core } :: custody.held, fabric }
  modify fun custody =>
    let (stages, fabric) := Pipeline.forStages (Pipeline.detachAll (core.outputs.map OutputPort.feed))
      custody.pipeline.stages custody.fabric
    { custody with pipeline := { custody.pipeline with stages }, fabric }

/-- Connects two stages in place. Both are looked up before the consumer is touched. -/
def link (producer : String) (output : Nat) (consumer : String) (input : Nat) : InPlace (Custody ω σ) Unit := do
  let custody ← get
  let source ← demand (custody.pipeline.stage? producer) (PipelineError.noStage producer).failure
  let feed ← demand (source.core.output? output) (PipelineError.noOutput producer output).failure
  let _ ← demand (custody.pipeline.stage? consumer) (PipelineError.noStage consumer).failure
  onCore (Core.rewire (some feed) input) (.pipeline consumer)

/-- Does what is asked for in place, step by step. A feed that does not exist cannot be asked for. -/
def Request.serve [Behaviour ω σ] : Request → InPlace (Custody ω σ) Unit
  | .add index => handOver index
  | .remove id => takeOut id
  | .connect producer output consumer input => link producer output consumer input
  | .setInput keeper feed port => do
    let custody ← get
    if feed.all custody.fabric.hasFeed then onCore (Core.rewire feed port) keeper else pure ()
  | .setProperty keeper name value => onCore (Core.enterOrFail name value) keeper

def Request.deal : Request → Deal σ
  | .add index => .place index
  | .remove id => .takeBack id
  | .connect producer output consumer input => .connect producer output consumer input
  | .setInput keeper feed port => .handle keeper (.setInput feed port)
  | .setProperty keeper name value => .handle keeper (.write name value)

/-- The reasons for which a request is refused, with the failure that is given for each. -/
inductive Refuses (custody : Custody ω σ) : Request → Failure → Prop
  | duplicate {index : Nat} {stage other : Stage σ} (held : custody.held[index]? = some stage)
      (there : other ∈ custody.pipeline.stages) (same : other.id = stage.id) :
      Refuses custody (.add index) (PipelineError.duplicate stage.id).failure
  | noStage {id : String} (absent : ∀ stage ∈ custody.pipeline.stages, stage.id ≠ id) :
      Refuses custody (.remove id) (PipelineError.noStage id).failure
  | noProducer {producer consumer : String} {output input : Nat}
      (absent : ∀ stage ∈ custody.pipeline.stages, stage.id ≠ producer) :
      Refuses custody (.connect producer output consumer input) (PipelineError.noStage producer).failure
  | noOutput {producer consumer : String} {output input : Nat} {source : Stage σ}
      (sourced : custody.pipeline.stage? producer = some source) (outside : source.core.outputs.length ≤ output) :
      Refuses custody (.connect producer output consumer input) (PipelineError.noOutput producer output).failure
  | noConsumer {producer consumer : String} {output input : Nat} {source : Stage σ} {feed : FeedId}
      (sourced : custody.pipeline.stage? producer = some source) (fed : source.core.output? output = some feed)
      (absent : ∀ stage ∈ custody.pipeline.stages, stage.id ≠ consumer) :
      Refuses custody (.connect producer output consumer input) (PipelineError.noStage consumer).failure
  | noConnection {producer consumer : String} {output input : Nat} {source target : Stage σ} {feed : FeedId}
      {failure : Failure} (sourced : custody.pipeline.stage? producer = some source)
      (fed : source.core.output? output = some feed) (found : custody.pipeline.stage? consumer = some target)
      (misfit : target.core.Misfit (some feed) input custody.fabric failure) :
      Refuses custody (.connect producer output consumer input) failure
  | noInput {keeper : Keeper} {feed : Option FeedId} {port : Nat} {stage : Stage σ} {failure : Failure}
      (found : custody.at? keeper = some stage) (present : feed.all custody.fabric.hasFeed = true)
      (misfit : stage.core.Misfit feed port custody.fabric failure) :
      Refuses custody (.setInput keeper feed port) failure
  | noProperty {keeper : Keeper} {name : String} {value : Property.Value} {stage : Stage σ} {failure : Failure}
      (found : custody.at? keeper = some stage)
      (refused : stage.core.writeProperty name value custody.fabric = .error failure) :
      Refuses custody (.setProperty keeper name value) failure

section Equations

/-- Connecting an input in place gives what the library gives, or leaves all as it was. -/
theorem onCore_rewire (found : custody.at? keeper = some stage) (feed : Option FeedId) (port : Nat) :
    onCore (Core.rewire feed port) keeper custody = match stage.core.setInput feed port custody.fabric with
      | .ok (core, fabric) => .ok () (custody.put { stage with core } fabric keeper)
      | .error error => .error error.failure custody := by
  simp only [onCore, found, Core.rewire_eq]
  cases stage.core.setInput feed port custody.fabric with
  | ok => rfl
  | error error => exact congrArg (EStateM.Result.error error.failure) (put_self found)

/-- Writing a property in place gives what the library gives; a failure is kept. -/
theorem onCore_enterOrFail (found : custody.at? keeper = some stage) (name : String) (value : Property.Value) :
    onCore (Core.enterOrFail name value) keeper custody =
      match stage.core.writeProperty name value custody.fabric with
      | .ok (core, fabric) => .ok () (custody.put { stage with core } fabric keeper)
      | .error failure => .error failure (custody.put (stage.fail failure) custody.fabric keeper) := by
  simp only [onCore, found, Core.enterOrFail_eq, Core.setProperty]
  cases stage.core.writeProperty name value custody.fabric <;> rfl

variable [Behaviour ω σ]

theorem handOver_eq {index : Nat} (held : custody.held[index]? = some stage) :
    handOver index custody =
      if (custody.pipeline.stage? stage.id).isSome then
        .error (PipelineError.duplicate stage.id).failure (custody.deal (.place index))
      else .ok () (custody.deal (.place index)) := by
  simp only [handOver, get_bind, deal, place, Pipeline.add, held]
  by_cases there : (custody.pipeline.stage? stage.id).isSome = true
  · simp only [if_pos there]
    rfl
  · simp only [if_neg there]
    rfl

theorem takeOut_eq {id : String} : takeOut id custody =
      match custody.pipeline.indexOf? id with
      | none => .error (PipelineError.noStage id).failure custody
      | some _ => .ok () (custody.deal (.takeBack id)) := by
  simp only [takeOut, get_bind, demand_bind, modify_bind, modify_run, deal, Pipeline.remove]
  cases known : custody.pipeline.indexOf? id with
  | none => rfl
  | some index =>
    obtain ⟨inside, -, -⟩ := List.findIdx?_eq_some_iff_getElem.mp known
    simp only [List.getElem?_eq_getElem inside]

omit [Behaviour ω σ] in
theorem link_eq {producer consumer : String} {output input : Nat} : link producer output consumer input custody =
      match custody.pipeline.stage? producer with
      | none => .error (PipelineError.noStage producer).failure custody
      | some source => match source.core.output? output with
        | none => .error (PipelineError.noOutput producer output).failure custody
        | some feed => match custody.pipeline.stage? consumer with
          | none => .error (PipelineError.noStage consumer).failure custody
          | some _ => onCore (Core.rewire (some feed) input) (.pipeline consumer) custody := by
  simp only [link, get_bind, demand_bind]
  cases custody.pipeline.stage? producer with
  | none => rfl
  | some source =>
    simp only
    cases source.core.output? output with
    | none => rfl
    | some feed =>
      simp only
      cases custody.pipeline.stage? consumer <;> rfl

theorem deal_setInput {feed : Option FeedId} {port : Nat} (found : custody.at? keeper = some stage)
    (present : feed.all custody.fabric.hasFeed = true) : custody.deal (.handle keeper (.setInput feed port)) =
      match stage.core.setInput feed port custody.fabric with
      | .ok (core, fabric) => custody.put { stage with core } fabric keeper
      | .error _ => custody := by
  simp only [deal, handle_eq, found, Job.perform, if_pos present]
  cases stage.core.setInput feed port custody.fabric with
  | ok => rfl
  | error => exact put_self found

theorem deal_setProperty {name : String} {value : Property.Value} (found : custody.at? keeper = some stage) :
    custody.deal (.handle keeper (.write name value)) =
      match stage.core.writeProperty name value custody.fabric with
      | .ok (core, fabric) => custody.put { stage with core } fabric keeper
      | .error failure => custody.put (stage.fail failure) custody.fabric keeper := by
  simp only [deal, handle_eq, found, Job.perform, Core.setProperty]
  cases stage.core.writeProperty name value custody.fabric <;> rfl

theorem deal_connect {producer consumer : String} {output input : Nat} :
    custody.deal (.connect producer output consumer input) = match custody.pipeline.stage? producer with
      | none => custody
      | some source => match source.core.output? output with
        | none => custody
        | some feed => match custody.pipeline.stage? consumer with
          | none => custody
          | some target => match target.core.setInput (some feed) input custody.fabric with
            | .ok (core, fabric) => custody.put { target with core } fabric (.pipeline consumer)
            | .error _ => custody := by
  simp only [deal, Pipeline.connect]
  cases custody.pipeline.stage? producer with
  | none => rfl
  | some source =>
    simp only
    cases source.core.output? output with
    | none => rfl
    | some feed =>
      simp only
      cases found : custody.pipeline.stage? consumer with
      | none => cases custody.pipeline.indexOf? consumer <;> rfl
      | some target =>
        obtain ⟨index, known, -⟩ := Pipeline.exists_index found
        simp only [known, put]
        cases target.core.setInput (some feed) input custody.fabric <;> rfl

/-- A fair end of a request: a failure that there is a reason for, or what the library makes of it. -/
def Request.Fair (custody : Custody ω σ) (request : Request) : EStateM.Result Failure (Custody ω σ) Unit → Prop
  | .ok () after => after = custody.deal request.deal
  | .error failure _ => custody.Refuses request failure

theorem fair_add (index : Nat) : (Request.add index).Fair custody ((Request.add index).serve custody) := by
  cases held : custody.held[index]? with
  | none =>
    simp only [Request.serve, handOver, get_bind, held]
    show custody = custody.deal (.place index)
    simp only [deal, place, held]
  | some stage =>
    simp only [Request.serve, handOver_eq held]
    by_cases there : (custody.pipeline.stage? stage.id).isSome = true
    · obtain ⟨other, member, same⟩ := List.find?_isSome.mp there
      rw [if_pos there]
      exact .duplicate held member (beq_iff_eq.mp same)
    · rw [if_neg there]
      rfl

theorem fair_remove (id : String) : (Request.remove id).Fair custody ((Request.remove id).serve custody) := by
  simp only [Request.serve, takeOut_eq]
  cases known : custody.pipeline.indexOf? id with
  | none => exact .noStage (Pipeline.indexOf?_eq_none_iff.mp known)
  | some => rfl

theorem fair_connect (producer consumer : String) (output input : Nat) :
    let request := Request.connect producer output consumer input
    request.Fair custody (request.serve custody) := by
  simp only [Request.serve, link_eq, Request.Fair, Request.deal, deal_connect]
  cases sourced : custody.pipeline.stage? producer with
  | none => exact .noProducer (Pipeline.stage?_eq_none_iff.mp sourced)
  | some source =>
    simp only
    cases fed : source.core.output? output with
    | none => exact .noOutput sourced (List.getElem?_eq_none_iff.mp (Option.map_eq_none_iff.mp fed))
    | some feed =>
      simp only
      cases found : custody.pipeline.stage? consumer with
      | none => exact .noConsumer sourced fed (Pipeline.stage?_eq_none_iff.mp found)
      | some target =>
        have kept : custody.at? (.pipeline consumer) = some target := found
        simp only [onCore_rewire kept]
        cases done : target.core.setInput (some feed) input custody.fabric with
        | ok => rfl
        | error error => exact .noConnection sourced fed found (Core.setInput_error_iff.mp ⟨error, done, rfl⟩)

theorem fair_setInput (keeper : Keeper) (feed : Option FeedId) (port : Nat) :
    let request := Request.setInput keeper feed port
    request.Fair custody (request.serve custody) := by
  simp only [Request.serve, get_bind, Request.Fair, Request.deal]
  by_cases present : feed.all custody.fabric.hasFeed = true
  · rw [if_pos present]
    cases found : custody.at? keeper with
    | none => simp only [onCore, deal, handle_eq, found]
    | some stage =>
      simp only [onCore_rewire found, deal_setInput found present]
      cases done : stage.core.setInput feed port custody.fabric with
      | ok => rfl
      | error error => exact .noInput found present (Core.setInput_error_iff.mp ⟨error, done, rfl⟩)
  · -- A feed that is not there is none that a caller could have.
    rw [if_neg present]
    show custody = custody.deal (.handle keeper (.setInput feed port))
    simp only [deal, handle_eq, Job.perform, if_neg present]
    cases found : custody.at? keeper with
    | none => rfl
    | some stage => exact (put_self found).symm

theorem fair_setProperty (keeper : Keeper) (name : String) (value : Property.Value) :
    let request := Request.setProperty keeper name value
    request.Fair custody (request.serve custody) := by
  simp only [Request.serve, Request.Fair, Request.deal]
  cases found : custody.at? keeper with
  | none => simp only [onCore, deal, handle_eq, found]
  | some stage =>
    simp only [onCore_enterOrFail found, deal_setProperty found]
    cases done : stage.core.writeProperty name value custody.fabric with
    | ok => rfl
    | error failure => exact .noProperty found done

/-- What ends in a failure is refused for one of the reasons; anything else ends where the library ends. -/
theorem fair_serve (custody : Custody ω σ) (request : Request) : request.Fair custody (request.serve custody) := by
  cases request with
  | add index => exact fair_add index
  | remove id => exact fair_remove id
  | connect producer output consumer input => exact fair_connect producer consumer output input
  | setInput keeper feed port => exact fair_setInput keeper feed port
  | setProperty keeper name value => exact fair_setProperty keeper name value

end Equations

def unfailed (stage : Stage σ) : Stage σ := { stage with core := { stage.core with lastFailure := none } }

/-- A stage that keeps another failure is the only one that changes, and it changes in nothing else. -/
theorem unfailed_put (found : custody.at? keeper = some stage) (failure : Failure) :
    let after := custody.put (stage.fail failure) custody.fabric keeper
    after.dropped = custody.dropped ∧ after.held.map unfailed = custody.held.map unfailed ∧
      after.pipeline.running = custody.pipeline.running ∧
      after.pipeline.stages.map unfailed = custody.pipeline.stages.map unfailed := by
  have same {stages : List (Stage σ)} {index : Nat} (there : stages[index]? = some stage) :
      (stages.set index (stage.fail failure)).map unfailed = stages.map unfailed := by
    obtain ⟨inside, rfl⟩ := List.getElem?_eq_some_iff.mp there
    rw [List.map_set]
    change (stages.map unfailed).set index (unfailed stages[index]) = _
    rw [← List.map_set, List.set_getElem_self]
  cases keeper with
  | caller index => exact ⟨rfl, same found, rfl, rfl⟩
  | pipeline id =>
    obtain ⟨index, known, there⟩ := Pipeline.exists_index found
    simp only [put, known]
    exact ⟨trivial, trivial, trivial, same there⟩

/-- What a refusal leaves: everything as it was. A stage that the pipeline turns away is dropped, though, and one whose
property cannot be written keeps the failure. -/
def Request.Spares (failure : Failure) (custody after : Custody ω σ) : Request → Prop
  | .add index => ∃ stage, custody.held[index]? = some stage ∧
      after = { custody with held := custody.held.eraseIdx index, dropped := custody.dropped ++ [stage] }
  | .setProperty keeper _ _ => ∃ stage, custody.at? keeper = some stage ∧
      after = custody.put (stage.fail failure) custody.fabric keeper
  | .remove _ | .connect .. | .setInput .. => after = custody

variable [Behaviour ω σ] {request : Request} {failure : Failure} {after : Custody ω σ}

/-- What there is a reason to refuse is refused with that failure, where the library ends, which is where it began. -/
theorem serve_of_refuses (refuses : custody.Refuses request failure) :
    request.serve custody = .error failure (custody.deal request.deal) ∧
      request.Spares failure custody (custody.deal request.deal) := by
  cases refuses with
  | @duplicate index stage other held there same =>
    have taken : (custody.pipeline.stage? stage.id).isSome = true :=
      List.find?_isSome.mpr ⟨other, there, beq_iff_eq.mpr same⟩
    refine ⟨(handOver_eq held).trans (if_pos taken), stage, held, ?_⟩
    simp only [Request.deal, deal, place, held, Pipeline.add, if_pos taken]
  | noStage absent =>
    have unknown := Pipeline.indexOf?_eq_none_iff.mpr absent
    simp only [Request.serve, Request.Spares, Request.deal, takeOut_eq, deal, Pipeline.remove, unknown, and_self]
  | noProducer absent =>
    have unknown := Pipeline.stage?_eq_none_iff.mpr absent
    simp only [Request.serve, Request.Spares, Request.deal, link_eq, deal_connect, unknown, and_self]
  | noOutput sourced outside =>
    have missing : Core.output? _ _ = none := Option.map_eq_none_iff.mpr (List.getElem?_eq_none outside)
    simp only [Request.serve, Request.Spares, Request.deal, link_eq, deal_connect, sourced, missing, and_self]
  | noConsumer sourced fed absent =>
    have unknown := Pipeline.stage?_eq_none_iff.mpr absent
    simp only [Request.serve, Request.Spares, Request.deal, link_eq, deal_connect, sourced, fed, unknown, and_self]
  | noConnection sourced fed found misfit =>
    obtain ⟨error, wrong, rfl⟩ := Core.setInput_error_iff.mpr misfit
    have kept : custody.at? (.pipeline _) = some _ := found
    simp only [Request.serve, Request.Spares, Request.deal, link_eq, deal_connect, sourced, fed, found,
      onCore_rewire kept, wrong, and_self]
  | noInput found present misfit =>
    obtain ⟨error, wrong, rfl⟩ := Core.setInput_error_iff.mpr misfit
    simp only [Request.serve, Request.Spares, Request.deal, get_bind, if_pos present, onCore_rewire found,
      deal_setInput found present, wrong, and_self]
  | @noProperty keeper name value stage failure found refused =>
    refine ⟨?_, stage, found, ?_⟩
    · simp only [Request.serve, Request.deal, onCore_enterOrFail found, deal_setProperty found, refused]
    · simp only [Request.deal, deal_setProperty found, refused]

omit [Behaviour ω σ] in
/-- Feeds, bells and the pipeline are as they were, but for the failures that stages keep. -/
theorem Request.Spares.same (spares : request.Spares failure custody after) :
    after.fabric = custody.fabric ∧ after.pipeline.running = custody.pipeline.running ∧
      after.pipeline.stages.map unfailed = custody.pipeline.stages.map unfailed := by
  cases request with
  | add index =>
    obtain ⟨stage, -, rfl⟩ := spares
    exact ⟨rfl, rfl, rfl⟩
  | setProperty keeper name value =>
    obtain ⟨stage, found, rfl⟩ := spares
    obtain ⟨-, -, running, stages⟩ := unfailed_put found failure
    exact ⟨fabric_put .., running, stages⟩
  | remove | connect | setInput =>
    cases spares
    exact ⟨rfl, rfl, rfl⟩

/-- Requests that are carried out in place, step by step, for stages of any kinds in any state. They are refused for the
reasons above and no others. One that is refused leaves everything as it was: the feeds with their observers and
payloads, the bells, and the pipeline, the order and the states of its stages; only that a stage which is turned away is
dropped, and that a stage keeps the failure to write one of its properties. One that is not refused does what the
library does. -/
theorem refusals_spare_all (custody : Custody ω σ) (request : Request) :
    (∀ failure, custody.Refuses request failure ↔ ∃ after, request.serve custody = .error failure after) ∧
    (∀ failure after, request.serve custody = .error failure after →
      request.Spares failure custody after ∧ after = custody.deal request.deal ∧ after.fabric = custody.fabric ∧
        after.pipeline.running = custody.pipeline.running ∧
        after.pipeline.stages.map unfailed = custody.pipeline.stages.map unfailed) ∧
    ∀ after, request.serve custody = .ok () after → after = custody.deal request.deal := by
  have fair := fair_serve custody request
  refine ⟨fun failure => ⟨?_, ?_⟩, fun failure after refused => ?_, fun after accepted => ?_⟩
  · exact fun refuses => ⟨_, (serve_of_refuses refuses).1⟩
  · rintro ⟨after, refused⟩
    rw [refused] at fair
    exact fair
  · rw [refused] at fair
    obtain ⟨there, spares⟩ := serve_of_refuses fair
    obtain rfl : after = custody.deal request.deal := by
      rw [refused] at there
      cases there
      rfl
    exact ⟨spares, rfl, spares.same⟩
  · rw [accepted] at fair
    exact fair

/-- A tracker that is fed by the source, and one of the same id in the caller's hands. -/
def fedTwin : Custody Unit Builtin := (empty ()).run (twins ++ [.connect "squares" 0 "hands" 0])

/-- Feeding the tracker its own touches is refused, and it goes on being fed by the source. A tracker of the same id is
turned away, and a size that is no number is refused; the tracker that is there keeps only the failure. -/
theorem refusals_spare_all_fedTwin :
    (∃ failure, (Request.connect "hands" 1 "hands" 0).serve fedTwin = .error failure fedTwin ∧
      fedTwin.fabric.observerNames ⟨0⟩ = ["hands"]) ∧
    (∃ failure after, (Request.add 0).serve fedTwin = .error failure after ∧ after.fabric = fedTwin.fabric ∧
      after.pipeline.failures = [] ∧ after.dropped.map Stage.id = ["hands"]) ∧
    ∃ failure after, (Request.setProperty (.pipeline "hands") "min_size" (.text "few")).serve fedTwin =
      .error failure after ∧ after.fabric = fedTwin.fabric ∧ after.pipeline.failures = [("hands", failure)] := by
  have misfit : failure? ((Request.connect "hands" 1 "hands" 0).serve fedTwin) =
      some ⟨.configuration, "input port 0 of 'hands' accepts image streams, got touch"⟩ := by decide +kernel
  have taken : failure? ((Request.add 0).serve fedTwin) =
      some ⟨.configuration, "pipeline already has a module 'hands'"⟩ := by decide +kernel
  have unreadable : failure? ((Request.setProperty (.pipeline "hands") "min_size" (.text "few")).serve fedTwin) =
      some ⟨.configuration, "property 'min_size': cannot convert string value 'few' to int"⟩ := by decide +kernel
  obtain ⟨after, misfit⟩ := exists_of_failure? misfit
  obtain ⟨turned, taken⟩ := exists_of_failure? taken
  obtain ⟨kept, unreadable⟩ := exists_of_failure? unreadable
  obtain ⟨rfl, -⟩ := (refusals_spare_all fedTwin (.connect "hands" 1 "hands" 0)).2.1 _ after misfit
  obtain ⟨-, rfl, same, -⟩ := (refusals_spare_all fedTwin (.add 0)).2.1 _ turned taken
  obtain ⟨-, rfl, still, -⟩ := (refusals_spare_all fedTwin (.setProperty (.pipeline "hands") "min_size"
    (.text "few"))).2.1 _ kept unreadable
  exact ⟨⟨_, misfit, by decide +kernel⟩, ⟨_, _, taken, same, by decide +kernel, by decide +kernel⟩,
    _, _, unreadable, still, by decide +kernel⟩

end Custody

end TouchTracking
