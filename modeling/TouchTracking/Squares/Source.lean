import TouchTracking.Squares.Motion

/-! A source of frames with moving squares. The same settings always give the same frames. -/
namespace TouchTracking

open TouchTracking.Random (Draws)
open Raster (Image)

structure SquareSource where
  settings : SquareSettings
  /-- Absent while the source is closed. -/
  draws : Option Draws
  squares : List Square
  captured : Nat

namespace SquareSource

def name : String := "SyntheticSource"

def description : String := "Binary frames with seeded moving squares"

def ofSettings (settings : SquareSettings) : SquareSource := ⟨settings, none, [], 0⟩

def isOpen (source : SquareSource) : Bool := source.draws.isSome

/-- Starts over from the given draws. -/
def begin (settings : SquareSettings) (draws : Draws) : SquareSource :=
  let (squares, draws) := Square.drawMany settings settings.blobs draws
  ⟨settings, some draws, squares, 0⟩

/-- Starts over with the settings that the properties hold, if these fit together. -/
def openWith (bag : PropertyBag) : Except SquareSettings.SettingsError SquareSource :=
  let settings := SquareSettings.ofProperties bag
  match settings.validate with
  | .error error => .error error
  | .ok () => .ok (begin settings (Draws.ofSeed settings.seed))

/-- Moves the squares on, except before the first frame. -/
def advance (source : SquareSource) (draws : Draws) : SquareSource :=
  let (squares, draws) :=
    if source.captured = 0 then (source.squares, draws)
    else Square.stepAll source.settings source.squares draws
  ⟨source.settings, some draws, squares, source.captured + 1⟩

/-- What a closed source answers. -/
def closed : Failure := ⟨.resource, "synthetic source is not open"⟩

def capture (source : SquareSource) : Except Failure (Image × SquareSource) :=
  match source.draws with
  | none => .error closed
  | some draws =>
    let source := source.advance draws
    .ok (Square.render source.settings source.squares, source)

def release (source : SquareSource) : SquareSource := { source with draws := none, squares := [] }

end SquareSource
end TouchTracking
