import TouchTracking.Failure
import TouchTracking.Feed.Basic

/-! What stages share: the feeds between them, the bells that pushes ring, the clock, and the
surroundings that their hooks may touch. Every stage owns one bell, and a bell is what is registered
on a feed; it stays there, and goes on being rung, even after its stage is gone. -/
namespace TouchTracking

structure FeedId where
  index : Nat
  deriving DecidableEq, Repr

structure BellId where
  index : Nat
  deriving DecidableEq, Repr

structure Bell where
  /-- The id of the stage, shown wherever observers are listed. -/
  owner : String
  /-- News has come that no step has answered. -/
  ringing : Bool
  /-- When the first unanswered news came. -/
  since : Option Nat
  deriving DecidableEq, Repr

def Bell.ring (bell : Bell) (now : Nat) : Bell :=
  { bell with ringing := true, since := bell.since <|> some now }

structure Fabric (ω : Type) where
  feeds : Array (Feed BellId)
  bells : Array Bell
  /-- Nanoseconds, advanced by whoever drives the stages. -/
  clock : Nat
  surroundings : ω

namespace Fabric

variable {ω : Type}

def empty (surroundings : ω) : Fabric ω := ⟨#[], #[], 0, surroundings⟩

def feed? (fabric : Fabric ω) (id : FeedId) : Option (Feed BellId) := fabric.feeds[id.index]?

def bell? (fabric : Fabric ω) (id : BellId) : Option Bell := fabric.bells[id.index]?

def addFeed (fabric : Fabric ω) (name : String) (format : Feed.Format) : FeedId × Fabric ω :=
  (⟨fabric.feeds.size⟩, { fabric with feeds := fabric.feeds.push (Feed.empty name format) })

def addBell (fabric : Fabric ω) (owner : String) : BellId × Fabric ω :=
  (⟨fabric.bells.size⟩, { fabric with bells := fabric.bells.push ⟨owner, false, none⟩ })

def modifyFeed (fabric : Fabric ω) (id : FeedId) (change : Feed BellId → Feed BellId) : Fabric ω :=
  { fabric with feeds := fabric.feeds.modify id.index change }

def modifyBell (fabric : Fabric ω) (id : BellId) (change : Bell → Bell) : Fabric ω :=
  { fabric with bells := fabric.bells.modify id.index change }

def ring (fabric : Fabric ω) (bell : BellId) : Fabric ω :=
  fabric.modifyBell bell (·.ring fabric.clock)

/-- Puts a payload on a feed and rings every bell registered there. -/
def push (fabric : Fabric ω) (id : FeedId) (payload : Payload) : Except Feed.PushError (Fabric ω) :=
  match fabric.feed? id with
  | none => .ok fabric
  | some feed =>
    match feed.push payload with
    | .error refusal => .error refusal
    | .ok feed => .ok (feed.observers.foldl ring (fabric.modifyFeed id fun _ => feed))

def subscribe (fabric : Fabric ω) (feed : FeedId) (bell : BellId) : Fabric ω :=
  fabric.modifyFeed feed (·.subscribe bell)

def unsubscribe (fabric : Fabric ω) (feed : FeedId) (bell : BellId) : Fabric ω :=
  fabric.modifyFeed feed (·.unsubscribe bell)

def isRinging (fabric : Fabric ω) (bell : BellId) : Bool :=
  (fabric.bell? bell).any Bell.ringing

/-- Silences a bell; the moment it first rang is kept. -/
def silence (fabric : Fabric ω) (bell : BellId) : Fabric ω :=
  fabric.modifyBell bell ({ · with ringing := false })

/-- When the first unanswered news came. -/
def since? (fabric : Fabric ω) (bell : BellId) : Option Nat := (fabric.bell? bell).bind Bell.since

def forgetSince (fabric : Fabric ω) (bell : BellId) : Fabric ω :=
  fabric.modifyBell bell ({ · with since := none })

/-- The owners of the bells registered on a feed. -/
def observerNames (fabric : Fabric ω) (feed : FeedId) : List String :=
  match fabric.feed? feed with
  | none => []
  | some feed => feed.observers.filterMap fun bell => (fabric.bell? bell).map Bell.owner

end Fabric
end TouchTracking
