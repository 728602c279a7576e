import TouchTracking.Stage.Lifecycle
import TouchTracking.Tracking.Outline

/-! The stage that tracks blobs. It takes masks in on one input and publishes, for every mask, a picture
with the tracked boxes outlined and then the list of touches. Its parameters are properties; they are
taken over before each mask, and as long as they do not fit together the last ones that did stay in
force. -/
namespace TouchTracking.BlobTracker

open Binary (Double)
open Raster (Image Picture)

/-- A tracker, and the picture that was drawn last, for the next one to be drawn on. -/
structure Body extends Tracker where
  canvas : Option Picture

instance : Coe Body Tracker := ⟨Body.toTracker⟩

def Body.standard : Body := ⟨Tracker.standard, none⟩

def name : String := "SimpleBlobTracker"

def info : StageInfo := ⟨name, "Track blobs in a binary image and publish touches", "touch-pipeline"⟩

def maskPort : Port := ⟨"mask", .image, "Binary mask, single channel, 255 = foreground"⟩

def annotatedPort : Port := ⟨"annotated", .image, "Tracked blobs outlined"⟩

def touchesPort : Port := ⟨"touches", .touch, "Tracked touches"⟩

def ranged (value : Nat) (minimum maximum : Int) (description : String) : Property :=
  ((Property.ofInt value).withRange (Double.ofInt minimum) (Double.ofInt maximum)).describedAs
    description

def properties : List (String × Property) :=
  let standard := TrackerParams.standard
  [("min_size", ranged standard.minSize 1 1024 "Smallest blob side accepted, in pixels"),
    ("max_size", ranged standard.maxSize 1 1024 "Largest blob side accepted, in pixels"),
    ("min_age", ranged standard.minAge 0 1000 "Consecutive matches before a blob is mature"),
    ("max_age", ranged standard.maxAge 0 1000 "Missed frames a blob survives")]

variable {ω : Type}

def make (fabric : Fabric ω) : Stage Body × Fabric ω :=
  let (core, fabric) := Core.make info [maskPort] [annotatedPort, touchesPort] fabric
  let core := properties.foldl (fun core entry => core.register entry.1 entry.2) core
  (⟨core, Body.standard⟩, fabric)

/-- The parameters that the properties hold, in 32 bits; a missing property counts as zero. -/
def paramsOf (core : Core) : TrackerParams :=
  let field (name : String) : Nat :=
    match core.properties.get? name with
    | none => 0
    | some property => property.value.toInt.toNat % (1 <<< 32)
  ⟨field "min_size", field "max_size", field "min_age", field "max_age"⟩

/-- Takes the parameters over from the properties. -/
def syncParams (stage : Stage Body) : Except SizeError (Stage Body) :=
  let params := paramsOf stage.core
  if params = stage.body.params then .ok stage
  else (stage.body.setParams params).map fun tracker => { stage with body := ⟨tracker, stage.body.canvas⟩ }

def sizeFailure (error : SizeError) : Failure := ⟨.configuration, error.message⟩

def notConnected (id : String) : Failure := ⟨.configuration, s!"{id}: input 0 is not connected"⟩

def wrongChannels (channels : Nat) : Failure :=
  ⟨.runtime, "blob tracker input must be a single channel binary image, " ++
    s!"got {channels} channels"⟩

/-- Lays out the canvas for a mask. -/
def layOut (mask : Image) (stage : Stage Body) : Stage Body :=
  { stage with body := ⟨stage.body.toTracker, some (canvasFor mask stage.body.canvas)⟩ }

/-- The newest mask on the input. -/
def mask? (stage : Stage Body) (fabric : Fabric ω) : Option Image :=
  (stage.core.payload? 0 fabric).bind Payload.image?

/-- Forgets what is tracked, and lays out the canvas if there is a mask already. -/
def setUp (stage : Stage Body) (fabric : Fabric ω) : Stage Body :=
  let laidOut := (mask? stage fabric).map fun mask => canvasFor mask stage.body.canvas
  { stage with body := ⟨stage.body.clear, laidOut.or stage.body.canvas⟩ }

/-- Gives everything up that belongs to the masks seen. -/
def release (stage : Stage Body) : Stage Body := { stage with body := ⟨stage.body.clear, none⟩ }

def onStart : Hook ω Body (Except Failure Unit) := fun stage fabric =>
  match stage.core.input? 0 with
  | none => (.error (notConnected stage.id), stage, fabric)
  | some _ =>
    match syncParams stage with
    | .error error => (.error (sizeFailure error), stage, fabric)
    | .ok stage => (.ok (), setUp stage fabric, fabric)

def onStop (stage : Stage Body) (fabric : Fabric ω) : Stage Body × Fabric ω :=
  (release stage, fabric)

def pushTo (core : Core) (port : Nat) (payload : Payload) (fabric : Fabric ω) :
    Except Failure (Fabric ω) :=
  match core.output? port with
  | none => .error ⟨.runtime, s!"no output port {port}"⟩
  | some feed => (fabric.push feed payload).mapError fun refusal => ⟨.runtime, refusal.message⟩

/-- Publishes the picture and then the touches. -/
def publish (core : Core) (picture : Image) (touches : List Touch) (fabric : Fabric ω) :
    Except Failure Unit × Fabric ω :=
  match pushTo core 0 (.image picture) fabric with
  | .error failure => (.error failure, fabric)
  | .ok fabric =>
    match pushTo core 1 (.touches touches) fabric with
    | .error failure => (.error failure, fabric)
    | .ok fabric => (.ok (), fabric)

/-- Tracks one mask. -/
def track (mask : Image) : Hook ω Body (Except Failure Unit) := fun stage fabric =>
  match syncParams stage with
  | .error error => (.error (sizeFailure error), stage, fabric)
  | .ok stage =>
    let canvas := canvasFor mask stage.body.canvas
    match stage.body.process mask with
    | .error error => (.error ⟨.runtime, error.message⟩, layOut mask stage, fabric)
    | .ok (touches, tracker) =>
      let picture := tracker.drawn canvas
      let (result, fabric) := publish stage.core picture.image touches fabric
      (result, { stage with body := ⟨tracker, some picture⟩ }, fabric)

/-- Tracks the newest mask, if there is one. A picture in colour is fatal: the stage is stopped, by way of the given
hook. -/
def updateBy (onStop : Stage Body → Fabric ω → Stage Body × Fabric ω) : Hook ω Body (Except Failure Unit) :=
  fun stage fabric =>
    match mask? stage fabric with
    | none => (.ok (), stage, fabric)
    | some mask =>
      if mask.channels = 1 then track mask stage fabric
      else (.error (wrongChannels mask.channels), stage.stopBy onStop fabric)

def update : Hook ω Body (Except Failure Unit) := updateBy onStop

/-- What the stage does by way of its hooks on starting and on stopping. -/
abbrev behaviour (onStart : Hook ω Body (Except Failure Unit))
    (onStop : Stage Body → Fabric ω → Stage Body × Fabric ω) : Behaviour ω Body where
  onStart := onStart
  onStop := onStop
  update := updateBy onStop

instance : Behaviour ω Body := behaviour onStart onStop

end TouchTracking.BlobTracker
