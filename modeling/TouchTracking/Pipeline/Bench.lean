import TouchTracking.Pipeline.Basic

/-! A controller's bench: stages held by name outside the pipeline, the pipeline, feeds that nobody
produces but the controller, and the fabric they all share. A stage is either held or in the
pipeline; one that the pipeline turns away is gone. -/
namespace TouchTracking

structure Bench (ω σ : Type) where
  pipeline : Pipeline σ
  held : List (String × Stage σ)
  /-- The bells of the stages in the pipeline under the names they had. -/
  placed : List (String × BellId)
  feeds : List (String × FeedId)
  fabric : Fabric ω

namespace Bench

variable {ω σ : Type}

def empty (surroundings : ω) : Bench ω σ := ⟨Pipeline.empty, [], [], [], Fabric.empty surroundings⟩

def addFeed (bench : Bench ω σ) (name : String) (format : Feed.Format) : Bench ω σ :=
  let (feed, fabric) := bench.fabric.addFeed name format
  { bench with feeds := (name, feed) :: bench.feeds, fabric }

/-- Frees a name. -/
def release (bench : Bench ω σ) (name : String) : Bench ω σ :=
  { bench with
    held := bench.held.filter (·.1 ≠ name)
    placed := bench.placed.filter (·.1 ≠ name) }

/-- Takes a stage in hand under a name, in place of the stage that had it. -/
def hold (bench : Bench ω σ) (name : String) (stage : Stage σ) (fabric : Fabric ω) : Bench ω σ :=
  let bench := bench.release name
  { bench with held := (name, stage) :: bench.held, fabric }

/-- The stage of a name, wherever it is. -/
def stage? (bench : Bench ω σ) (name : String) : Option (Stage σ) :=
  match bench.held.lookup name with
  | some stage => some stage
  | none =>
    (bench.placed.lookup name).bind fun bell => bench.pipeline.stages.find? (·.core.bell = bell)

/-- Puts a changed stage back where it was. -/
def store (bench : Bench ω σ) (name : String) (stage : Stage σ) (fabric : Fabric ω) : Bench ω σ :=
  if (bench.held.lookup name).isSome then bench.hold name stage fabric
  else
    let stages := bench.pipeline.stages.map fun old =>
      if old.core.bell = stage.core.bell then stage else old
    { bench with pipeline := { bench.pipeline with stages }, fabric }

/-- Hands a held stage to the pipeline. -/
def place (bench : Bench ω σ) (name : String) :
    Option (Except Pipeline.PipelineError Unit × Bench ω σ) :=
  (bench.held.lookup name).map fun stage =>
    let bench := bench.release name
    match bench.pipeline.add stage with
    | .error error => (.error error, bench)
    | .ok pipeline =>
      (.ok (), { bench with pipeline, placed := (name, stage.core.bell) :: bench.placed })

/-- Takes a stage back from the pipeline under its name. -/
def takeBack [Behaviour ω σ] (bench : Bench ω σ) (id : String) :
    Except Pipeline.PipelineError (Bench ω σ) :=
  (bench.pipeline.remove id bench.fabric).map fun (stage, pipeline, fabric) =>
    let bench := { bench with pipeline, fabric }
    match bench.placed.find? (·.2 = stage.core.bell) with
    | none => bench
    | some (name, _) => bench.hold name stage fabric

/-- Lets the pipeline act. -/
def drive (bench : Bench ω σ) (action : Pipeline σ → Fabric ω → Pipeline σ × Fabric ω) :
    Bench ω σ :=
  let (pipeline, fabric) := action bench.pipeline bench.fabric
  { bench with pipeline, fabric }

/-- Ticks one after the other, with the count of busy stages in each. -/
def ticks [Behaviour ω σ] : (count : Nat) → Bench ω σ → List Nat × Bench ω σ
  | 0, bench => ([], bench)
  | count + 1, bench =>
    let (busy, pipeline, fabric) := bench.pipeline.poll bench.fabric
    let (rest, bench) := ticks count { bench with pipeline, fabric }
    (busy :: rest, bench)

end Bench
end TouchTracking
