import TouchTracking.Feed.Basic

/-! Notification with observers that react. A push notifies the observers that were registered when it
began, in order; each of them, when notified, carries out the next batch of its reactions, which may
change the registrations and push again. -/
namespace TouchTracking.Feed

variable {α : Type} [DecidableEq α]

inductive Reaction (α : Type)
  | subscribe (observer : α)
  | unsubscribe (observer : α)
  | push (payload : Payload)
  | read

inductive Event (α : Type)
  | notified (observer : α) (sequence : Nat)
  | pushed (observer : α) (result : Except PushError Unit)
  | read (observer : α) (slot : Option Payload)

/-- A feed with its observers at work: the batches of reactions that each of them has left, and what
has happened so far. -/
structure Scene (α : Type) where
  feed : Feed α
  scripts : List (α × List (List (Reaction α)))
  events : List (Event α)

namespace Scene

def log (scene : Scene α) (event : Event α) : Scene α :=
  { scene with events := scene.events ++ [event] }

/-- The count of batches left. -/
def pending (scene : Scene α) : Nat := (scene.scripts.flatMap Prod.snd).length

/-- Drops the next batch of an observer. -/
def advanceScripts (observer : α) :
    List (α × List (List (Reaction α))) → List (α × List (List (Reaction α)))
  | [] => []
  | (owner, batches) :: rest =>
    if owner = observer then (owner, batches.tail) :: rest
    else (owner, batches) :: advanceScripts observer rest

/-- The next batch of an observer, which is thereby used up. -/
def takeBatch (scene : Scene α) (observer : α) : List (Reaction α) × Scene α :=
  let batch := ((scene.scripts.lookup observer).bind List.head?).getD []
  (batch, { scene with scripts := advanceScripts observer scene.scripts })

/-- Carries one reaction out; `publish` is what a nested push does. -/
def react (publish : Scene α → Payload → Except PushError Unit × Scene α) (observer : α)
    (scene : Scene α) : Reaction α → Scene α
  | .subscribe other => { scene with feed := scene.feed.subscribe other }
  | .unsubscribe other => { scene with feed := scene.feed.unsubscribe other }
  | .push payload =>
    let (result, scene) := publish scene payload
    scene.log (.pushed observer result)
  | .read => scene.log (.read observer scene.feed.slot)

/-- Notifies one observer. -/
def notify (publish : Scene α → Payload → Except PushError Unit × Scene α) (scene : Scene α)
    (observer : α) : Scene α :=
  let (batch, scene) := (scene.log (.notified observer scene.feed.sequence)).takeBatch observer
  batch.foldl (react publish observer) scene

/-- Pushes are nested at most `depth` deep. -/
def publishWithin : (depth : Nat) → Scene α → Payload → Except PushError Unit × Scene α
  | 0, scene, _ => (.ok (), scene)
  | depth + 1, scene, payload =>
    match scene.feed.push payload with
    | .error refusal => (.error refusal, scene)
    | .ok feed =>
      (.ok (), feed.observers.foldl (notify (publishWithin depth)) { scene with feed })

/-- Pushes a payload and lets the observers react. Every nested push belongs to a batch of its own,
so there is no nesting deeper than the count of batches. -/
def publish (scene : Scene α) (payload : Payload) : Except PushError Unit × Scene α :=
  publishWithin (scene.pending + 1) scene payload

end Scene
end TouchTracking.Feed
