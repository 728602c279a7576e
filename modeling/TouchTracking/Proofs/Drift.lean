import TouchTracking.Squares.Motion

/-! How a square drifts. Whatever the words are that numbers are drawn from, a number drawn from a range
lies in it, so that a square begins in the frame and with a drift up to the speed, and is turned in one of
the ways in `Turns`; a move keeps both, and never leads further than the speed, since a square that would
cross the border stops there. -/
namespace TouchTracking

open TouchTracking.Random (Draws)

namespace Random.Draws

/-- A product with a word is cut off above the 64 bits of the word, which leaves less than the size. -/
theorem offset?_lt {size n : Nat} (positive : 0 < size) {word : UInt64}
    (fit : offset? size word = some n) : n < size := by
  simp only [offset?] at fit
  split at fit
  next =>
    cases fit
    rw [Nat.shiftRight_eq_div_pow]
    exact Nat.div_lt_of_lt_mul (Nat.mul_lt_mul_of_pos_right word.toNat_lt positive)
  next => cases fit

theorem offset_lt {size : Nat} (positive : 0 < size) (attempts : Nat) (draws : Draws) :
    (draws.offset size attempts).1 < size := by
  induction attempts generalizing draws with
  | zero => exact positive
  | succ attempts ih =>
    rw [offset]
    cases found : offset? size draws.next.1 with
    | some n => simpa only [found] using offset?_lt positive found
    | none => simpa only [found] using ih draws.next.2

theorem between_mem {low high number : Int} {draws rest : Draws} (order : low ≤ high)
    (drawn : draws.between low high = (number, rest)) : low ≤ number ∧ number ≤ high := by
  have below := offset_lt (show 0 < (high - low + 1).toNat by omega) 4096 draws
  rw [between] at drawn
  split at drawn
  next n _ found =>
    rw [found] at below
    obtain ⟨rfl, -⟩ := Prod.mk.inj drawn
    omega

end Random.Draws

theorem clampInt_mem {low high : Int} (order : low ≤ high) (value : Int) :
    low ≤ clampInt low high value ∧ clampInt low high value ≤ high := by
  unfold clampInt
  omega

/-- A move stays between the borders, keeps to the speed, and leads no further than the speed. -/
theorem bounce_spec {limit position drift speed : Int} (inside : 0 ≤ position ∧ position ≤ limit)
    (slow : -speed ≤ drift ∧ drift ≤ speed) :
    (0 ≤ (bounce limit position drift).1 ∧ (bounce limit position drift).1 ≤ limit) ∧
      (-speed ≤ (bounce limit position drift).2 ∧ (bounce limit position drift).2 ≤ speed) ∧
      ((bounce limit position drift).1 - position).natAbs ≤ speed := by
  unfold bounce clampInt
  simp only
  split <;> simp only <;> omega

theorem SquareSettings.validate_ok {settings : SquareSettings} (valid : settings.validate = .ok ()) :
    (0 < settings.width ∧ 0 < settings.height) ∧ 0 < settings.size ∧
      settings.size ≤ settings.width ∧ settings.size ≤ settings.height := by
  unfold validate at valid
  split at valid
  next => cases valid
  next filled =>
    split at valid
    next => cases valid
    next fits => omega

namespace Square

/-- The square lies in the frame, and drifts no faster than the speed along either axis. -/
structure Steady (settings : SquareSettings) (square : Square) : Prop where
  top : 0 ≤ square.top ∧ square.top ≤ settings.height - settings.size
  left : 0 ≤ square.left ∧ square.left ≤ settings.width - settings.size
  rowDrift : -settings.speed ≤ square.rowDrift ∧ square.rowDrift ≤ settings.speed
  columnDrift : -settings.speed ≤ square.columnDrift ∧ square.columnDrift ≤ settings.speed

structure Near (distance : Nat) (square other : Square) : Prop where
  rows : (other.top - square.top).natAbs ≤ distance
  columns : (other.left - square.left).natAbs ≤ distance

theorem drawMany_one (settings : SquareSettings) (draws : Draws) :
    drawMany settings 1 draws = ([(draw settings draws).1], (draw settings draws).2) := by
  rw [drawMany]
  split
  next drawn =>
    rw [drawn]
    rfl

theorem stepAll_singleton (settings : SquareSettings) (square : Square) (draws : Draws) :
    stepAll settings [square] draws =
      ([(square.step settings draws).1], (square.step settings draws).2) := by
  rw [stepAll]
  split
  next moved =>
    rw [moved]
    rfl

variable {settings : SquareSettings}

theorem steady_draw (valid : settings.validate = .ok ()) (draws : Draws) :
    (draw settings draws).1.Steady settings := by
  obtain ⟨-, -, wide, high⟩ := SquareSettings.validate_ok valid
  have rows : (0 : Int) ≤ settings.height - settings.size := by omega
  have columns : (0 : Int) ≤ settings.width - settings.size := by omega
  have drift : -(settings.speed : Int) ≤ settings.speed := by omega
  rw [draw]
  -- one split for each number, in the order of drawing
  split
  split
  split
  split
  next _ _ _ drawn_top _ _ _ drawn_left _ _ _ drawn_row _ _ _ drawn_column =>
    exact ⟨Draws.between_mem rows drawn_top, Draws.between_mem columns drawn_left,
      Draws.between_mem drift drawn_row, Draws.between_mem drift drawn_column⟩

/-- What chance may do to a square in a frame: nothing, or, if there is any speed at all, a change of either
drift by at most one, within the speed. -/
inductive Turns (speed : Nat) (square : Square) : Square → Prop
  | stays : Turns speed square square
  | changes {row column : Int} (moving : 0 < speed) (rows : -1 ≤ row ∧ row ≤ 1)
      (columns : -1 ≤ column ∧ column ≤ 1) :
      Turns speed square { square with
        rowDrift := clampInt (-speed) speed (square.rowDrift + row)
        columnDrift := clampInt (-speed) speed (square.columnDrift + column) }

theorem turns_nudge {speed : Nat} (moving : 0 < speed) (square : Square) (draws : Draws) :
    square.Turns speed (square.nudge speed draws).1 := by
  rw [nudge]
  split
  split
  next _ _ _ drawn_row _ _ _ drawn_column =>
    exact .changes moving (Draws.between_mem (by decide) drawn_row)
      (Draws.between_mem (by decide) drawn_column)

theorem turns_jitter (speed : Nat) (square : Square) (draws : Draws) :
    square.Turns speed (square.jitter speed draws).1 := by
  unfold jitter
  split
  next moving =>
    simp only
    split
    next => exact turns_nudge (Int.natCast_pos.mp moving) ..
    next => exact .stays
  next => exact .stays

theorem Turns.steady {square turned : Square} (turns : square.Turns settings.speed turned)
    (steady : square.Steady settings) :
    turned.Steady settings ∧ turned.top = square.top ∧ turned.left = square.left := by
  have slow (drift : Int) :=
    clampInt_mem (show -(settings.speed : Int) ≤ settings.speed by omega) drift
  cases turns with
  | stays => exact ⟨steady, rfl, rfl⟩
  | changes => exact ⟨⟨steady.top, steady.left, slow _, slow _⟩, rfl, rfl⟩

theorem steady_move {square : Square} (steady : square.Steady settings) :
    (square.move settings).Steady settings ∧ square.Near settings.speed (square.move settings) := by
  obtain ⟨top, rowDrift, rows⟩ := bounce_spec steady.top steady.rowDrift
  obtain ⟨left, columnDrift, columns⟩ := bounce_spec steady.left steady.columnDrift
  exact ⟨⟨top, left, rowDrift, columnDrift⟩, Int.ofNat_le.mp rows, Int.ofNat_le.mp columns⟩

/-- Where a square may be in the next frame, whatever is drawn: chance turns it, and then it moves. -/
def Drifts (settings : SquareSettings) (square next : Square) : Prop :=
  ∃ turned : Square, square.Turns settings.speed turned ∧ turned.move settings = next

theorem drifts_step (settings : SquareSettings) (square : Square) (draws : Draws) :
    square.Drifts settings (square.step settings draws).1 :=
  ⟨_, turns_jitter settings.speed square draws, rfl⟩

/-- From frame to frame a square stays in the frame and goes no further than the speed. -/
theorem Drifts.steady {square next : Square} (drifts : square.Drifts settings next)
    (steady : square.Steady settings) : next.Steady settings ∧ square.Near settings.speed next := by
  obtain ⟨turned, turns, rfl⟩ := drifts
  obtain ⟨kept, same_top, same_left⟩ := turns.steady steady
  obtain ⟨moved, rows, columns⟩ := steady_move kept
  refine ⟨moved, ?_, ?_⟩
  · rw [← same_top]
    exact rows
  · rw [← same_left]
    exact columns

theorem steady_step {square : Square} (steady : square.Steady settings) (draws : Draws) :
    (square.step settings draws).1.Steady settings ∧
      square.Near settings.speed (square.step settings draws).1 :=
  (drifts_step ..).steady steady

end Square
end TouchTracking
