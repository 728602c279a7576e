import TouchTracking.CommandLine.Options
import TouchTracking.Config.Build
import TouchTracking.Json.Printer

/-! The daemon: what it answers to its options, and how it runs the pipeline that the settings
describe. -/
namespace TouchTracking.CommandLine

open Config (Settings LoadError BuildError ConfigFile Environment)

/-- The pipeline of the daemon at work. -/
structure Daemon where
  pipeline : Pipeline Builtin
  fabric : Fabric Unit

def factory : Factory Unit Builtin := Factory.ofConstructors id Builtin.constructors

inductive DaemonError
  | load (error : LoadError)
  | build (error : BuildError)
  | unknownStage (failure : Failure)
  /-- A stage failed in a test run. -/
  | stage (id : String) (failure : Failure)

def DaemonError.message (path : String) : DaemonError → String
  | .load error => error.message path
  | .build error => error.message
  | .unknownStage failure => failure.text
  | .stage id failure => s!"pipeline error in {id}: {failure.text}"

namespace Daemon

/-- The pipeline for a file and an environment, not yet started. -/
def prepare (file : Option ConfigFile) (environment : Environment) :
    Except DaemonError (Settings × Daemon) := do
  let settings ← (Settings.load file environment).mapError .load
  let (pipeline, fabric) ← (settings.build factory (Fabric.empty ())).mapError .build
  return (settings, ⟨pipeline, fabric⟩)

def start (daemon : Daemon) : Daemon :=
  let (pipeline, fabric) := daemon.pipeline.start daemon.fabric
  ⟨pipeline, fabric⟩

/-- Forgets the failure of the first stage with the given id. -/
def forgive (id : String) : List (Stage Builtin) → List (Stage Builtin)
  | [] => []
  | stage :: rest =>
    if stage.id = id then { stage with core := { stage.core with lastFailure := none } } :: rest
    else stage :: forgive id rest

/-- One tick. The first failure ends a test run; otherwise it is forgotten. -/
def tick (test : Bool) (daemon : Daemon) : Except DaemonError Daemon :=
  let (_, pipeline, fabric) := daemon.pipeline.poll daemon.fabric
  match pipeline.failures with
  | [] => .ok ⟨pipeline, fabric⟩
  | (id, failure) :: _ =>
    if test then .error (.stage id failure)
    else .ok ⟨{ pipeline with stages := forgive id pipeline.stages }, fabric⟩

def run (test : Bool) : (ticks : Nat) → Daemon → Except DaemonError Daemon
  | 0, daemon => .ok daemon
  | ticks + 1, daemon => (daemon.tick test).bind (run test ticks)

/-- The feed of touches. -/
def touches? (daemon : Daemon) : Option (Feed BellId) :=
  (daemon.pipeline.stage? Config.trackerId).bind (·.core.output? 1) |>.bind daemon.fabric.feed?

end Daemon

/-- The kinds of stage, each on a line. -/
def listing : String := String.join (factory.names.map (· ++ "\n"))

def description (name : String) : Except DaemonError String :=
  ((factory.describe name (Fabric.empty ())).mapError .unknownStage).map fun (description, _) =>
    Json.pretty 0 description.toJson ++ "\n"

/-- What the options ask for. -/
inductive Plan
  | print (text : String)
  | work (settings : Settings) (daemon : Daemon)

/-- A list is wanted before a description, and either of them instead of work. -/
def Options.plan (options : Options) (file : Option ConfigFile) (environment : Environment) :
    Except DaemonError Plan :=
  if options.list then .ok (.print listing)
  else match options.describe with
    | some name => (description name).map .print
    | Option.none => (Daemon.prepare file environment).map fun (settings, daemon) =>
      .work settings daemon

end TouchTracking.CommandLine
