import TouchTracking.Stage.Lifecycle

/-! Descriptions of stages and snapshots of their state. -/
namespace TouchTracking

def Port.toJson (port : Port) : Json :=
  .object [("name", .text port.name), ("type", .text port.format.label),
    ("description", .text port.description)]

/-- Everything a controller needs to know about a kind of stage. -/
structure StageDescription where
  info : StageInfo
  properties : PropertyBag
  inputs : List Port
  outputs : List Port

def StageDescription.toJson (description : StageDescription) : Json :=
  .object [("name", .text description.info.name),
    ("description", .text description.info.description),
    ("author", .text description.info.author),
    ("properties", description.properties.toJson),
    ("inputs", .list (description.inputs.map Port.toJson)),
    ("outputs", .list (description.outputs.map Port.toJson))]

def Stage.describe {σ : Type} (stage : Stage σ) : StageDescription where
  info := stage.core.info
  properties := stage.core.properties
  inputs := stage.core.inputs.map InputPort.port
  outputs := stage.core.outputs.map OutputPort.port

/-- A stage as it is at one moment. -/
structure StageStatus where
  id : String
  name : String
  running : Bool
  failure : Option Failure
  properties : PropertyBag
  /-- Each input with whether it is connected. -/
  inputs : List (Port × Bool)
  /-- Each output with the observers of its feed. -/
  outputs : List (Port × List String)
  frames : Nat
  waitedFrames : Nat

def StageStatus.toJson (status : StageStatus) : Json :=
  let input (entry : Port × Bool) : Json :=
    .object [("name", .text entry.1.name), ("type", .text entry.1.format.label),
      ("used", .bool entry.2)]
  let output (entry : Port × List String) : Json :=
    .object [("name", .text entry.1.name), ("type", .text entry.1.format.label),
      ("observers", Json.texts entry.2)]
  .object [("id", .text status.id), ("name", .text status.name), ("running", .bool status.running),
    ("error", match status.failure with | none => .null | some failure => .text failure.text),
    ("error_kind", match status.failure with | none => .null | some failure => .text failure.kind.label),
    ("properties", status.properties.toJson),
    ("inputs", .list (status.inputs.map input)),
    ("outputs", .list (status.outputs.map output)),
    ("stats", .object [("frames", .int status.frames), ("waited_frames", .int status.waitedFrames)])]

def Stage.status {ω σ : Type} (stage : Stage σ) (fabric : Fabric ω) : StageStatus where
  id := stage.id
  name := stage.core.info.name
  running := stage.isStarted
  failure := stage.core.lastFailure
  properties := stage.core.properties
  inputs := stage.core.inputs.map fun input => (input.port, input.feed.isSome)
  outputs := stage.core.outputs.map fun output => (output.port, fabric.observerNames output.feed)
  frames := stage.core.stats.process.count
  waitedFrames := stage.core.stats.wait.count

end TouchTracking
