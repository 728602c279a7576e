import TouchTracking.Blob.Basic

/-! Boxes carried from frame to frame, kept in slots. A slot that is freed stays in its place until the
frame ends, so slot numbers hold good for the whole of a frame. -/
namespace TouchTracking

/-- A box with an identity. -/
structure TrackedBlob where
  blob : Blob
  id : Nat
  /-- Frames in a row without a matching box. -/
  age : Nat
  matched : Bool
  /-- Matches in a row, counted up to the age of maturity. -/
  maturity : Nat
  deriving DecidableEq, Repr

def TrackedBlob.ofBlob (blob : Blob) (id : Nat) : TrackedBlob := ⟨blob, id, 0, true, 0⟩

def TrackedBlob.isMature (tracked : TrackedBlob) (minAge : Nat) : Bool := minAge ≤ tracked.maturity

structure Arena where
  slots : List (Option TrackedBlob)
  deriving DecidableEq, Repr

namespace Arena

def empty : Arena := ⟨[]⟩

def get? (arena : Arena) (slot : Nat) : Option TrackedBlob := arena.slots[slot]?.join

/-- Changes the entry of a slot, if the slot is taken. -/
def modify (arena : Arena) (slot : Nat) (change : TrackedBlob → TrackedBlob) : Arena :=
  ⟨arena.slots.modify slot (Option.map change)⟩

/-- Frees a slot. -/
def retire (arena : Arena) (slot : Nat) : Arena := ⟨arena.slots.set slot none⟩

/-- Changes every entry. -/
def mapEntries (arena : Arena) (change : TrackedBlob → TrackedBlob) : Arena :=
  ⟨arena.slots.map (Option.map change)⟩

/-- Changes or frees every taken slot. -/
def filterMapEntries (arena : Arena) (change : TrackedBlob → Option TrackedBlob) : Arena :=
  ⟨arena.slots.map (·.bind change)⟩

/-- The entries in slot order. -/
def entries (arena : Arena) : List TrackedBlob := arena.slots.filterMap id

/-- The entries in slot order, each with its slot. -/
def indexed (arena : Arena) : List (Nat × TrackedBlob) :=
  arena.slots.zipIdx.filterMap fun (entry, slot) => entry.map (slot, ·)

def slotCount (arena : Arena) : Nat := arena.slots.length

def size (arena : Arena) : Nat := arena.entries.length

def isEmpty (arena : Arena) : Bool := arena.size == 0

/-- Closes the frame: the new entries come first, then the remaining ones in their order, and no slot
is free. -/
def endFrame (arena : Arena) (front : List TrackedBlob) : Arena :=
  ⟨(front ++ arena.entries).map some⟩

end Arena
end TouchTracking
