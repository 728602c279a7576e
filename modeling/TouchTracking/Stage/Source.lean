import TouchTracking.Squares.Source
import TouchTracking.Stage.Lifecycle

/-! Stages that bring frames in. A camera is anything that can be opened with the properties of its
stage, gives at most one frame at a time, and can be released; its stage asks it for a frame on every
tick and publishes what it gives. -/
namespace TouchTracking

open Raster (Image)

/-- A camera with state `κ`, in surroundings `ω` that it may touch. -/
class Camera (ω κ : Type) where
  name : κ → String
  description : κ → String := fun _ => ""
  properties : κ → List (String × Property) := fun _ => []
  openWith : κ → PropertyBag → ω → Except Failure Unit × κ × ω
  capture : κ → ω → Except Failure (Option Image) × κ × ω
  release : κ → ω → κ × ω

instance {ω : Type} : Camera ω SquareSource where
  name _ := SquareSource.name
  description _ := SquareSource.description
  properties source := source.settings.properties
  openWith source bag surroundings := match SquareSource.openWith bag with
    | .ok source => (.ok (), source, surroundings)
    | .error error => (.error error.failure, source, surroundings)
  capture source surroundings := match source.capture with
    | .ok (image, source) => (.ok (some image), source, surroundings)
    | .error failure => (.error failure, source, surroundings)
  release source surroundings := (source.release, surroundings)

/-- The state of a stage that owns a camera. -/
structure Source (κ : Type) where
  camera : κ

namespace Source

variable {ω κ : Type}

def author : String := "touch-pipeline"

def framePort : Port := ⟨"image", .image, "Captured frames"⟩

def make [Camera ω κ] (camera : κ) (fabric : Fabric ω) : Stage (Source κ) × Fabric ω :=
  let info : StageInfo := ⟨Camera.name ω camera, Camera.description ω camera, author⟩
  let (core, fabric) := Core.make info [] [framePort] fabric
  let core := (Camera.properties ω camera).foldl
    (fun core entry => core.register entry.1 entry.2) core
  (⟨core, ⟨camera⟩⟩, fabric)

def onStart [Camera ω κ] : Hook ω (Source κ) (Except Failure Unit) := fun stage fabric =>
  let (result, camera, surroundings) :=
    Camera.openWith stage.body.camera stage.core.properties fabric.surroundings
  (result, { stage with body := ⟨camera⟩ }, { fabric with surroundings })

def onStop [Camera ω κ] (stage : Stage (Source κ)) (fabric : Fabric ω) :
    Stage (Source κ) × Fabric ω :=
  let (camera, surroundings) := Camera.release stage.body.camera fabric.surroundings
  ({ stage with body := ⟨camera⟩ }, { fabric with surroundings })

def noOutput : Failure := ⟨.runtime, "source module has no output stream"⟩

def publish (core : Core) (frame : Image) (fabric : Fabric ω) : Except Failure (Fabric ω) :=
  match core.output? 0 with
  | none => .error noOutput
  | some feed => (fabric.push feed (.image frame)).mapError fun refusal => ⟨.runtime, refusal.message⟩

/-- Asks the camera for a frame and publishes it. -/
def tick [Camera ω κ] : Hook ω (Source κ) (Except Failure Bool) := fun stage fabric =>
  let (result, camera, surroundings) := Camera.capture stage.body.camera fabric.surroundings
  let stage : Stage (Source κ) := { stage with body := ⟨camera⟩ }
  let fabric := { fabric with surroundings }
  match result with
  | .error failure => (.error failure, stage, fabric)
  | .ok none => (.ok false, stage, fabric)
  | .ok (some frame) =>
    match publish stage.core frame fabric with
    | .error failure => (.error failure, stage, fabric)
    | .ok fabric => (.ok true, stage, fabric)

instance [Camera ω κ] : Behaviour ω (Source κ) where
  onStart := onStart
  onStop := onStop
  poll := Stage.pollOnTick tick

end Source
end TouchTracking
