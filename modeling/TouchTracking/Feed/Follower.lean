import TouchTracking.Feed.Basic
import TouchTracking.Json.Printer

/-! Following a feed of touches from outside. A follower looks at the feed from time to time, takes the
newest payload if it has not seen it, and counts those it came too late for. -/
namespace TouchTracking

structure Follower where
  /-- The number of the latest payload taken. -/
  seen : Nat
  frames : Nat
  skipped : Nat
  deriving DecidableEq, Repr

def Touch.line (touches : List Touch) : String := (Json.list (touches.map Touch.toJson)).compact

namespace Follower

def startingAt (seen : Nat) : Follower := ⟨seen, 0, 0⟩

/-- The line for the newest payload, if it is new and holds touches. -/
def next {α : Type} (follower : Follower) (feed : Feed α) : Option String × Follower :=
  if feed.sequence ≤ follower.seen then (none, follower)
  else
    let caughtUp : Follower :=
      { follower with
        seen := feed.sequence
        skipped := follower.skipped + (feed.sequence - follower.seen - 1) }
    match feed.slot.bind Payload.touches? with
    | none => (none, caughtUp)
    | some touches => (some (Touch.line touches), { caughtUp with frames := caughtUp.frames + 1 })

end Follower
end TouchTracking
