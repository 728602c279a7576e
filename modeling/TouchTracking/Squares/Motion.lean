import TouchTracking.Random.Draws
import TouchTracking.Raster.Mask
import TouchTracking.Squares.Settings

/-! Squares that drift over a frame, bounce off its borders, and now and then change their drift a
little. -/
namespace TouchTracking

open TouchTracking.Random (Draws)
open Raster (Image)

structure Square where
  top : Int
  left : Int
  rowDrift : Int
  columnDrift : Int
  deriving DecidableEq, Repr

def clampInt (low high value : Int) : Int := max low (min high value)

/-- Position and drift along one axis after a move; a move across the border of `[0, limit]` stops
there and turns the drift round. -/
def bounce (limit position drift : Int) : Int × Int :=
  let moved := position + drift
  if moved < 0 ∨ limit < moved then (clampInt 0 limit moved, -drift) else (moved, drift)

namespace Square

/-- A new square somewhere in the frame, with any drift up to the speed. -/
def draw (settings : SquareSettings) (draws : Draws) : Square × Draws :=
  let (top, draws) := draws.between 0 (settings.height - settings.size)
  let (left, draws) := draws.between 0 (settings.width - settings.size)
  let (rowDrift, draws) := draws.between (-settings.speed) settings.speed
  let (columnDrift, draws) := draws.between (-settings.speed) settings.speed
  (⟨top, left, rowDrift, columnDrift⟩, draws)

def drawMany (settings : SquareSettings) : (count : Nat) → Draws → List Square × Draws
  | 0, draws => ([], draws)
  | count + 1, draws =>
    let (square, draws) := draw settings draws
    let (squares, draws) := drawMany settings count draws
    (square :: squares, draws)

/-- Changes either drift by at most one, within the speed. -/
def nudge (speed : Int) (square : Square) (draws : Draws) : Square × Draws :=
  let (row, draws) := draws.between (-1) 1
  let (column, draws) := draws.between (-1) 1
  ({ square with
      rowDrift := clampInt (-speed) speed (square.rowDrift + row)
      columnDrift := clampInt (-speed) speed (square.columnDrift + column) }, draws)

/-- One time in five the drift changes; a square that cannot move draws nothing. -/
def jitter (speed : Int) (square : Square) (draws : Draws) : Square × Draws :=
  if 0 < speed then
    let (changes, draws) := draws.oneInFive
    if changes then square.nudge speed draws else (square, draws)
  else (square, draws)

def move (settings : SquareSettings) (square : Square) : Square :=
  let (top, rowDrift) := bounce (settings.height - settings.size) square.top square.rowDrift
  let (left, columnDrift) := bounce (settings.width - settings.size) square.left square.columnDrift
  ⟨top, left, rowDrift, columnDrift⟩

def step (settings : SquareSettings) (square : Square) (draws : Draws) : Square × Draws :=
  let (square, draws) := square.jitter settings.speed draws
  (square.move settings, draws)

/-- One frame for all squares, which draw in turn. -/
def stepAll (settings : SquareSettings) : List Square → Draws → List Square × Draws
  | [], draws => ([], draws)
  | square :: rest, draws =>
    let (square, draws) := square.step settings draws
    let (rest, draws) := stepAll settings rest draws
    (square :: rest, draws)

/-- The squares in white on black. -/
def render (settings : SquareSettings) (squares : List Square) : Image :=
  squares.foldl
    (fun image square =>
      image.fillRect square.top square.left settings.size settings.size Raster.foreground)
    (Image.blank settings.width settings.height 1)

end Square
end TouchTracking
