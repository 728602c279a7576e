import TouchTracking.Property.Bag
import TouchTracking.Stage.Fabric
import TouchTracking.Stage.Stats

/-! What every stage has: an identity, properties, ports, a phase of life, and a place for its latest
failure. The id is a property that can be assigned once and is then locked. -/
namespace TouchTracking

structure StageInfo where
  name : String
  description : String
  author : String
  deriving DecidableEq, Repr

structure Port where
  name : String
  format : Feed.Format
  description : String
  deriving DecidableEq, Repr

structure InputPort where
  port : Port
  feed : Option FeedId
  deriving DecidableEq, Repr

structure OutputPort where
  port : Port
  feed : FeedId
  deriving DecidableEq, Repr

inductive Phase
  | created
  | started
  | stopped
  deriving DecidableEq, Repr

def Phase.label : Phase → String
  | .created => "created"
  | .started => "started"
  | .stopped => "stopped"

structure Core where
  info : StageInfo
  properties : PropertyBag
  inputs : List InputPort
  outputs : List OutputPort
  phase : Phase
  lastFailure : Option Failure
  bell : BellId
  stats : StageStats

def isIdStart (c : Char) : Bool := c.isAlpha

def isIdRest (c : Char) : Bool := c.isAlphanum || c == '_' || c == '-'

/-- A letter and up to 63 letters, digits, underscores and hyphens, all of ASCII. -/
def isStageId (id : String) : Bool :=
  match id.toList with
  | [] => false
  | first :: rest => isIdStart first && rest.all isIdRest && rest.length ≤ 63

inductive IdError
  | malformed (id : String)
  | assigned (id : String)
  | notText (kind : Property.Kind)
  deriving DecidableEq, Repr

def IdError.failure : IdError → Failure
  | .malformed id =>
    ⟨.configuration, s!"module id '{id}' must match ^[A-Za-z][A-Za-z0-9_-]\x7b0,63\x7d$"⟩
  | .assigned id => ⟨.invalidState, s!"module '{id}' already has an assigned id"⟩
  | .notText kind => ⟨.configuration, s!"module id must be a string, got {kind.label}"⟩

def checkId (id : String) : Except IdError Unit :=
  if isStageId id then .ok () else .error (.malformed id)

/-- The name of the property that holds the id. -/
def idName : String := "id"

namespace Core

variable {ω : Type}

def addOutputs (fabric : Fabric ω) : List Port → List OutputPort × Fabric ω
  | [] => ([], fabric)
  | port :: rest =>
    let (feed, fabric) := fabric.addFeed port.name port.format
    let (outputs, fabric) := addOutputs fabric rest
    (⟨port, feed⟩ :: outputs, fabric)

/-- A core with one new feed for each output. The first id is the name with the count of the stages
made before. -/
def make (info : StageInfo) (inputs outputs : List Port) (fabric : Fabric ω) : Core × Fabric ω :=
  let id := info.name ++ toString fabric.bells.size
  let (bell, fabric) := fabric.addBell id
  let (outputs, fabric) := addOutputs fabric outputs
  let identity := (Property.ofValue (.text id)).describedAs "Identifier of the module"
  ({ info
     properties := PropertyBag.empty.register idName identity
     inputs := inputs.map (⟨·, none⟩)
     outputs
     phase := .created
     lastFailure := none
     bell
     stats := StageStats.zero }, fabric)

def id (core : Core) : String :=
  match core.properties.get? idName with
  | none => ""
  | some property => property.value.toText

def isStarted (core : Core) : Bool := core.phase == .started

def fail (core : Core) (failure : Failure) : Core := { core with lastFailure := some failure }

def register (core : Core) (name : String) (property : Property) : Core :=
  { core with properties := core.properties.register name property }

def isIdLocked (core : Core) : Bool := (core.properties.get? idName).any Property.readOnly

/-- Locks the id as it is. -/
def lockId (core : Core) : Core :=
  match core.properties.setReadOnly idName true with
  | .ok properties => { core with properties }
  | .error _ => core

/-- Gives the stage its id for good. -/
def assignId (core : Core) (id : String) (fabric : Fabric ω) : Except Failure (Core × Fabric ω) :=
  if core.isIdLocked then .error (IdError.assigned core.id).failure
  else match checkId id with
    | .error error => .error error.failure
    | .ok () =>
      match core.properties.set idName (.text id) with
      | .error error => .error error.failure
      | .ok properties =>
        .ok (lockId { core with properties }, fabric.modifyBell core.bell ({ · with owner := id }))

/-- Writes a property; the id can only be written as an assignment. -/
def writeProperty (core : Core) (name : String) (value : Property.Value) (fabric : Fabric ω) :
    Except Failure (Core × Fabric ω) :=
  if name = idName then
    match value with
    | .text id => core.assignId id fabric
    | other => .error (IdError.notText other.kind).failure
  else match core.properties.set name value with
    | .error error => .error error.failure
    | .ok properties => .ok ({ core with properties }, fabric)

/-- Writes a property and keeps a failure as the latest one. -/
def setProperty (core : Core) (name : String) (value : Property.Value) (fabric : Fabric ω) :
    Except Failure Unit × Core × Fabric ω :=
  match core.writeProperty name value fabric with
  | .ok (core, fabric) => (.ok (), core, fabric)
  | .error failure => (.error failure, core.fail failure, fabric)

end Core
end TouchTracking
