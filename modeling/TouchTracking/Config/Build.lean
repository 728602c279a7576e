import TouchTracking.Config.Settings
import TouchTracking.Pipeline.Basic
import TouchTracking.Stage.Builtin
import TouchTracking.Stage.Factory

/-! The pipeline that settings describe: a source of squares that feeds a blob tracker, every setting
written to the property of its name. -/
namespace TouchTracking.Config

def sourceId : String := "source"

def trackerId : String := "tracker"

/-- What keeps a pipeline from being built: a failure, and the stage whose property refused a
setting. -/
structure BuildError where
  stage : Option String
  failure : Failure
  deriving DecidableEq, Repr

def BuildError.message (error : BuildError) : String :=
  match error.stage with
  | none => error.failure.text
  | some stage => s!"{stage}: {error.failure.text}"

def BuildError.ofFailure (failure : Failure) : BuildError := ⟨none, failure⟩

namespace Settings

/-- The factory name of the source. -/
def sourceName (_ : Settings) : String := SquareSource.name

def sourceValues (settings : Settings) : List (String × Int) :=
  let squares := settings.squares
  [("width", squares.width), ("height", squares.height), ("blobs", squares.blobs),
    ("size", squares.size), ("speed", squares.speed), ("seed", SquareSettings.signed64 squares.seed)]

def trackerValues (settings : Settings) : List (String × Int) :=
  let tracker := settings.tracker
  [("min_size", tracker.minSize), ("max_size", tracker.maxSize), ("min_age", tracker.minAge),
    ("max_age", tracker.maxAge)]

variable {ω σ : Type}

/-- Writes values to the properties of their names. -/
def writeAll (id : String) :
    List (String × Int) → Core → Fabric ω → Except BuildError (Core × Fabric ω)
  | [], core, fabric => .ok (core, fabric)
  | (name, value) :: rest, core, fabric =>
    match core.writeProperty name (.int value) fabric with
    | .error failure => .error ⟨some id, failure⟩
    | .ok (core, fabric) => writeAll id rest core fabric

/-- A new stage with its id and its properties. -/
def makeStage (factory : Factory ω σ) (name id : String) (values : List (String × Int))
    (fabric : Fabric ω) : Except BuildError (Stage σ × Fabric ω) := do
  let (stage, fabric) ← (factory.create name fabric).mapError BuildError.ofFailure
  let (core, fabric) ← (stage.core.assignId id fabric).mapError BuildError.ofFailure
  let (core, fabric) ← writeAll id values core fabric
  return ({ stage with core }, fabric)

def build (settings : Settings) (factory : Factory ω σ) (fabric : Fabric ω) :
    Except BuildError (Pipeline σ × Fabric ω) := do
  let refuse (error : Pipeline.PipelineError) := BuildError.ofFailure error.failure
  let (source, fabric) ←
    makeStage factory settings.sourceName sourceId settings.sourceValues fabric
  let (tracker, fabric) ← makeStage factory BlobTracker.name trackerId settings.trackerValues fabric
  let pipeline ← (Pipeline.empty.add source).mapError refuse
  let pipeline ← (pipeline.add tracker).mapError refuse
  (pipeline.connect sourceId 0 trackerId 0 fabric).mapError refuse

end Settings
end TouchTracking.Config
