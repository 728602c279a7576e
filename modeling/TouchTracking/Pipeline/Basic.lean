import TouchTracking.Stage.Report

/-! Pipelines: stages in the order in which they were added, which is the order in which they start,
stop and step. The ids in a pipeline are distinct and locked. -/
namespace TouchTracking

structure Pipeline (σ : Type) where
  stages : List (Stage σ)
  running : Bool

namespace Pipeline

variable {ω σ : Type}

inductive PipelineError
  | duplicate (id : String)
  | noStage (id : String)
  | noOutput (id : String) (port : Nat)
  | wiring (error : WiringError)
  deriving DecidableEq, Repr

def PipelineError.failure : PipelineError → Failure
  | .duplicate id => ⟨.configuration, s!"pipeline already has a module '{id}'"⟩
  | .noStage id => ⟨.configuration, s!"no module '{id}'"⟩
  | .noOutput id port => ⟨.configuration, s!"module '{id}' has no output {port}"⟩
  | .wiring error => error.failure

def empty : Pipeline σ := ⟨[], false⟩

def indexOf? (pipeline : Pipeline σ) (id : String) : Option Nat :=
  pipeline.stages.findIdx? (·.id == id)

def stage? (pipeline : Pipeline σ) (id : String) : Option (Stage σ) :=
  pipeline.stages.find? (·.id == id)

/-- Puts a stage in the last place and locks its id. -/
def add (pipeline : Pipeline σ) (stage : Stage σ) : Except PipelineError (Pipeline σ) :=
  if (pipeline.stage? stage.id).isSome then .error (.duplicate stage.id)
  else .ok { pipeline with stages := pipeline.stages ++ [{ stage with core := stage.core.lockId }] }

/-- Runs an action on every stage in turn. -/
def forStages (action : Stage σ → Fabric ω → Stage σ × Fabric ω) :
    List (Stage σ) → Fabric ω → List (Stage σ) × Fabric ω
  | [], fabric => ([], fabric)
  | stage :: rest, fabric =>
    let (stage, fabric) := action stage fabric
    let (rest, fabric) := forStages action rest fabric
    (stage :: rest, fabric)

/-- Disconnects a stage from each of the given feeds. -/
def detachAll (feeds : List FeedId) (stage : Stage σ) (fabric : Fabric ω) : Stage σ × Fabric ω :=
  let (core, fabric) := feeds.foldl
    (fun (core, fabric) feed => core.detachFeed feed fabric) (stage.core, fabric)
  ({ stage with core }, fabric)

/-- Takes a stage out, stopped and without inputs, and disconnects the others from its outputs. -/
def remove [Behaviour ω σ] (pipeline : Pipeline σ) (id : String) (fabric : Fabric ω) :
    Except PipelineError (Stage σ × Pipeline σ × Fabric ω) :=
  match pipeline.indexOf? id with
  | none => .error (.noStage id)
  | some index =>
    match pipeline.stages[index]? with
    | none => .error (.noStage id)
    | some stage =>
      let (stage, fabric) := stage.stop fabric
      let (core, fabric) := stage.core.detachInputs fabric
      let (stages, fabric) := forStages (detachAll (core.outputs.map OutputPort.feed))
        (pipeline.stages.eraseIdx index) fabric
      .ok ({ stage with core }, { pipeline with stages }, fabric)

/-- Feeds an output of one stage into an input of another. -/
def connect (pipeline : Pipeline σ) (producer : String) (output : Nat) (consumer : String)
    (input : Nat) (fabric : Fabric ω) : Except PipelineError (Pipeline σ × Fabric ω) :=
  match pipeline.stage? producer with
  | none => .error (.noStage producer)
  | some source =>
    match source.core.output? output with
    | none => .error (.noOutput producer output)
    | some feed =>
      match pipeline.indexOf? consumer, pipeline.stage? consumer with
      | some index, some target =>
        match target.core.setInput (some feed) input fabric with
        | .error error => .error (.wiring error)
        | .ok (core, fabric) =>
          .ok ({ pipeline with stages := pipeline.stages.set index { target with core } }, fabric)
      | _, _ => .error (.noStage consumer)

/-- Starts every stage that is not started; one that fails keeps its failure. -/
def start [Behaviour ω σ] (pipeline : Pipeline σ) (fabric : Fabric ω) : Pipeline σ × Fabric ω :=
  let (stages, fabric) := forStages
    (fun stage fabric => if stage.isStarted then (stage, fabric) else (stage.start fabric).2)
    pipeline.stages fabric
  (⟨stages, true⟩, fabric)

def stop [Behaviour ω σ] (pipeline : Pipeline σ) (fabric : Fabric ω) : Pipeline σ × Fabric ω :=
  let (stages, fabric) := forStages Stage.stop pipeline.stages fabric
  (⟨stages, false⟩, fabric)

/-- The moment of the first unanswered news, which is thereby used up. -/
def takeSince (stage : Stage σ) (fabric : Fabric ω) : Option Nat × Fabric ω :=
  if fabric.isRinging stage.core.bell then
    (fabric.since? stage.core.bell, fabric.forgetSince stage.core.bell)
  else (none, fabric)

/-- Counts a step that worked, and the wait of the news that it answered. -/
def recordStep (began : Nat) (since : Option Nat) (stage : Stage σ) (fabric : Fabric ω) : Stage σ :=
  let stats := stage.core.stats.record (fabric.clock - began)
  let stats := match since with
    | none => stats
    | some since => stats.recordWait (began - since)
  { stage with core := { stage.core with stats } }

/-- The turn of one stage in a tick. -/
def turn [Behaviour ω σ] : Hook ω σ Bool := fun stage fabric =>
  if stage.isStarted then
    let began := fabric.clock
    let (since, fabric) := takeSince stage fabric
    let (worked, stage, fabric) := Behaviour.poll stage fabric
    (worked, if worked then recordStep began since stage fabric else stage, fabric)
  else (false, stage, fabric)

/-- The turns of all stages, with the count of those that had work. -/
def turns [Behaviour ω σ] : List (Stage σ) → Fabric ω → Nat × List (Stage σ) × Fabric ω
  | [], fabric => (0, [], fabric)
  | stage :: rest, fabric =>
    let (worked, stage, fabric) := turn stage fabric
    let (count, rest, fabric) := turns rest fabric
    (count + worked.toNat, stage :: rest, fabric)

/-- One tick: every started stage has one turn. -/
def poll [Behaviour ω σ] (pipeline : Pipeline σ) (fabric : Fabric ω) :
    Nat × Pipeline σ × Fabric ω :=
  let (count, stages, fabric) := turns pipeline.stages fabric
  (count, { pipeline with stages }, fabric)

/-- The failures that stages keep, in the order of the stages. -/
def failures (pipeline : Pipeline σ) : List (String × Failure) :=
  pipeline.stages.filterMap fun stage => stage.core.lastFailure.map (stage.id, ·)

end Pipeline

structure PipelineStatus where
  running : Bool
  stages : List StageStatus

def PipelineStatus.toJson (status : PipelineStatus) : Json :=
  .object [("size", .int status.stages.length), ("running", .bool status.running),
    ("modules", .list (status.stages.map StageStatus.toJson))]

def Pipeline.status {ω σ : Type} (pipeline : Pipeline σ) (fabric : Fabric ω) : PipelineStatus :=
  ⟨pipeline.running, pipeline.stages.map (·.status fabric)⟩

end TouchTracking
