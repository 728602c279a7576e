import TouchTracking.Stage.Core

/-! Connecting the inputs of a stage to feeds. A connected stage has its bell registered on the feed;
connecting to a feed that already holds a payload rings the bell at once. -/
namespace TouchTracking

inductive WiringError
  | noInput (stage : String) (port : Nat)
  | wrongFormat (stage : String) (port : Nat) (expected actual : Feed.Format)
  deriving DecidableEq, Repr

def WiringError.failure : WiringError → Failure
  | .noInput stage port => ⟨.configuration, s!"module '{stage}' has no input port {port}"⟩
  | .wrongFormat stage port expected actual =>
    ⟨.configuration, s!"input port {port} of '{stage}' accepts {expected.label} streams, " ++
      s!"got {actual.label}"⟩

namespace Core

variable {ω : Type}

def input? (core : Core) (port : Nat) : Option FeedId := core.inputs[port]?.bind InputPort.feed

def output? (core : Core) (port : Nat) : Option FeedId := core.outputs[port]?.map OutputPort.feed

/-- The payload that an input shows. -/
def payload? (core : Core) (port : Nat) (fabric : Fabric ω) : Option Payload :=
  (core.input? port).bind fabric.feed? |>.bind Feed.slot

/-- Takes the bell off a feed. -/
def leave (core : Core) (feed : Option FeedId) (fabric : Fabric ω) : Fabric ω :=
  match feed with
  | none => fabric
  | some feed => fabric.unsubscribe feed core.bell

/-- Registers the bell on a feed and rings it if the feed holds a payload. -/
def join (core : Core) (feed : Option FeedId) (fabric : Fabric ω) : Fabric ω :=
  match feed with
  | none => fabric
  | some feed =>
    let fabric := fabric.subscribe feed core.bell
    if ((fabric.feed? feed).bind Feed.slot).isSome then fabric.ring core.bell else fabric

/-- What keeps an input from being connected to a feed. -/
def wiringError? (core : Core) (feed : Option FeedId) (port : Nat) (fabric : Fabric ω) :
    Option WiringError :=
  match core.inputs[port]? with
  | none => some (.noInput core.id port)
  | some input =>
    match feed.bind fabric.feed? with
    | none => none
    | some target =>
      if target.format = input.port.format then none
      else some (.wrongFormat core.id port input.port.format target.format)

/-- Connects an input to a feed, or to none. The stage leaves the feed it was connected to first. -/
def setInput (core : Core) (feed : Option FeedId) (port : Nat) (fabric : Fabric ω) :
    Except WiringError (Core × Fabric ω) :=
  match core.wiringError? feed port fabric with
  | some error => .error error
  | none =>
    let fabric := core.join feed (core.leave (core.input? port) fabric)
    .ok ({ core with inputs := core.inputs.modify port ({ · with feed }) }, fabric)

/-- Disconnects every input. -/
def detachInputs (core : Core) (fabric : Fabric ω) : Core × Fabric ω :=
  ({ core with inputs := core.inputs.map ({ · with feed := none }) },
    core.inputs.foldl (fun fabric input => core.leave input.feed fabric) fabric)

/-- Disconnects every input that is connected to the given feed. -/
def detachFeed (core : Core) (feed : FeedId) (fabric : Fabric ω) : Core × Fabric ω :=
  if core.inputs.any (·.feed == some feed) then
    ({ core with
        inputs := core.inputs.map fun input =>
          if input.feed = some feed then { input with feed := none } else input },
      fabric.unsubscribe feed core.bell)
  else (core, fabric)

end Core
end TouchTracking
