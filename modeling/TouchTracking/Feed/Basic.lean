import TouchTracking.Raster.Image
import TouchTracking.Tracking.Touch

/-! Feeds. A feed carries the latest payload of one format, counts the payloads it accepted, and keeps
the observers to be notified in the order of their registration. Observers are told apart by their
identity, a value of the type `α`. -/
namespace TouchTracking

open Raster (Image)

namespace Feed

inductive Format
  | image
  | touch
  deriving DecidableEq, Repr

def Format.label : Format → String
  | .image => "image"
  | .touch => "touch"

def Format.ofLabel? (label : String) : Option Format :=
  [Format.image, .touch].find? (·.label == label)

end Feed

inductive Payload
  | image (image : Image)
  | touches (touches : List Touch)

namespace Payload

def format : Payload → Feed.Format
  | .image _ => .image
  | .touches _ => .touch

def image? : Payload → Option Image
  | .image frame => some frame
  | .touches _ => none

def touches? : Payload → Option (List Touch)
  | .image _ => none
  | .touches list => some list

end Payload

structure Feed (α : Type) where
  name : String
  format : Feed.Format
  slot : Option Payload
  /-- The count of accepted payloads, which is also the number of the one in the slot. -/
  sequence : Nat
  observers : List α

namespace Feed

/-- A payload of the wrong format. -/
structure PushError where
  feed : String
  expected : Format
  actual : Format
  deriving DecidableEq, Repr

def PushError.message (error : PushError) : String :=
  s!"stream '{error.feed}' carries {error.expected.label} payloads, got {error.actual.label}"

variable {α : Type}

def empty (name : String) (format : Format) : Feed α := ⟨name, format, none, 0, []⟩

/-- Takes a payload in; notifying the observers is left to whoever knows them. -/
def push (feed : Feed α) (payload : Payload) : Except PushError (Feed α) :=
  if payload.format = feed.format then
    .ok { feed with slot := some payload, sequence := feed.sequence + 1 }
  else .error ⟨feed.name, feed.format, payload.format⟩

/-- Registers an observer in the last place, unless it is registered. -/
def subscribe [DecidableEq α] (feed : Feed α) (observer : α) : Feed α :=
  if observer ∈ feed.observers then feed
  else { feed with observers := feed.observers ++ [observer] }

def unsubscribe [DecidableEq α] (feed : Feed α) (observer : α) : Feed α :=
  { feed with observers := feed.observers.filter (· ≠ observer) }

end Feed
end TouchTracking
