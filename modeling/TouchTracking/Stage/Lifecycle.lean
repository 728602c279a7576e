import TouchTracking.Stage.Wiring

/-! Stages and what they do. A kind of stage is given by its own state and by hooks on starting, on
stopping, and for its step; everything else is the same for all. A stage either steps when its bell
has rung, or, having its own source of work, on every tick. -/
namespace TouchTracking

structure Stage (σ : Type) where
  core : Core
  body : σ

/-- An action of a stage: its result, and the stage and the fabric after it. -/
abbrev Hook (ω σ α : Type) := Stage σ → Fabric ω → α × Stage σ × Fabric ω

namespace Stage

variable {ω σ τ : Type}

def id (stage : Stage σ) : String := stage.core.id

def isStarted (stage : Stage σ) : Bool := stage.core.isStarted

def setPhase (stage : Stage σ) (phase : Phase) : Stage σ :=
  { stage with core := { stage.core with phase } }

def fail (stage : Stage σ) (failure : Failure) : Stage σ :=
  { stage with core := stage.core.fail failure }

def mapBody (change : σ → τ) (stage : Stage σ) : Stage τ := ⟨stage.core, change stage.body⟩

def alreadyStarted (id : String) : Failure := ⟨.invalidState, s!"module '{id}' is already started"⟩

/-- Whether there was work; a failure counts as none and is kept. -/
def settle : Except Failure Bool × Stage σ × Fabric ω → Bool × Stage σ × Fabric ω
  | (.ok worked, stage, fabric) => (worked, stage, fabric)
  | (.error failure, stage, fabric) => (false, stage.fail failure, fabric)

/-- Stops a stage that is started, by way of the given hook. -/
def stopBy (onStop : Stage σ → Fabric ω → Stage σ × Fabric ω) (stage : Stage σ) (fabric : Fabric ω) :
    Stage σ × Fabric ω :=
  if stage.isStarted then
    let (stage, fabric) := onStop stage fabric
    (stage.setPhase .stopped, fabric)
  else (stage, fabric)

/-- The step of a stage that works on every tick. -/
def pollOnTick (work : Hook ω σ (Except Failure Bool)) : Hook ω σ Bool := fun stage fabric =>
  if stage.isStarted then settle (work stage fabric) else (false, stage, fabric)

/-- The step of a stage that works when its bell has rung, which silences the bell. -/
def pollOnNews (update : Hook ω σ (Except Failure Unit)) : Hook ω σ Bool := fun stage fabric =>
  if stage.isStarted && fabric.isRinging stage.core.bell then
    let (result, stage, fabric) := update stage (fabric.silence stage.core.bell)
    settle (result.map fun () => true, stage, fabric)
  else (false, stage, fabric)

end Stage

/-- What a kind of stage with state `σ` does in surroundings `ω`. -/
class Behaviour (ω σ : Type) where
  onStart : Hook ω σ (Except Failure Unit) := fun stage fabric => (.ok (), stage, fabric)
  onStop : Stage σ → Fabric ω → Stage σ × Fabric ω := fun stage fabric => (stage, fabric)
  update : Hook ω σ (Except Failure Unit) := fun stage fabric => (.ok (), stage, fabric)
  /-- One scheduling step, which tells whether there was work. -/
  poll : Hook ω σ Bool := Stage.pollOnNews update

namespace Stage

variable {ω σ : Type}

/-- Starts a stage that is not started. -/
def start [Behaviour ω σ] : Hook ω σ (Except Failure Unit) := fun stage fabric =>
  if stage.isStarted then (.error (alreadyStarted stage.id), stage, fabric)
  else match Behaviour.onStart stage fabric with
    | (.error failure, stage, fabric) => (.error failure, stage.fail failure, fabric)
    | (.ok (), stage, fabric) => (.ok (), stage.setPhase .started, fabric)

def stop [Behaviour ω σ] : Stage σ → Fabric ω → Stage σ × Fabric ω := stopBy Behaviour.onStop

end Stage

/-- Runs a hook of one kind of stage on a stage of a wider kind. -/
def Hook.widen {ω σ τ α : Type} (inject : τ → σ) (hook : Hook ω τ α) (core : Core) (body : τ)
    (fabric : Fabric ω) : α × Stage σ × Fabric ω :=
  let (result, stage, fabric) := hook ⟨core, body⟩ fabric
  (result, stage.mapBody inject, fabric)

/-- A stage that is of one kind or of the other. -/
instance {ω σ τ : Type} [Behaviour ω σ] [Behaviour ω τ] : Behaviour ω (σ ⊕ τ) where
  onStart stage fabric := match stage.body with
    | .inl body => Hook.widen .inl Behaviour.onStart stage.core body fabric
    | .inr body => Hook.widen .inr Behaviour.onStart stage.core body fabric
  onStop stage fabric := match stage.body with
    | .inl body =>
      let (stage, fabric) := Behaviour.onStop ⟨stage.core, body⟩ fabric
      (stage.mapBody .inl, fabric)
    | .inr body =>
      let (stage, fabric) := Behaviour.onStop ⟨stage.core, body⟩ fabric
      (stage.mapBody .inr, fabric)
  update stage fabric := match stage.body with
    | .inl body => Hook.widen .inl Behaviour.update stage.core body fabric
    | .inr body => Hook.widen .inr Behaviour.update stage.core body fabric
  poll stage fabric := match stage.body with
    | .inl body => Hook.widen .inl Behaviour.poll stage.core body fabric
    | .inr body => Hook.widen .inr Behaviour.poll stage.core body fabric

end TouchTracking
