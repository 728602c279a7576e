import TouchTracking.Blob.Detector
import TouchTracking.Proofs.Pixels

/-! How far the four probes reach. A probe stops at the last position before the first one that is not
inside, and from any pixel of a rectangle that stands by itself the probes measure the rectangle. -/
namespace TouchTracking.Detector

open Raster (Mask)

/-- A probe takes as many steps as stay inside, and another one would not. -/
theorem reach_spec (inside : Int → Bool) (step : Int) (limit : Nat) (position : Int) :
    ∃ count ≤ limit, reach inside step limit position = position + step * count ∧
      (∀ taken : Nat, 1 ≤ taken → taken ≤ count → inside (position + step * taken) = true) ∧
      (count < limit → inside (position + step * (count + 1)) = false) := by
  induction limit generalizing position with
  | zero => exact ⟨0, Nat.le_refl _, by simp [reach], by omega, by omega⟩
  | succ limit ih =>
    cases next : inside (position + step) with
    | false =>
      refine ⟨0, Nat.zero_le _, by simp [reach, next], by omega, fun _ => ?_⟩
      simpa using next
    | true =>
      obtain ⟨count, room, reached, run, stop⟩ := ih (position + step)
      have shift (taken : Nat) :
          position + step * (taken + 1 : Nat) = position + step + step * taken := by
        rw [Int.natCast_succ, Int.mul_add, Int.mul_one]
        omega
      refine ⟨count + 1, Nat.succ_le_succ room, ?_, ?_, ?_⟩
      · rw [reach, if_pos next, reached, shift]
      · intro taken first last
        obtain ⟨before, rfl⟩ := Nat.exists_eq_add_of_le' first
        rw [shift]
        by_cases start : before = 0
        · simpa [start] using next
        · exact run before (by omega) (by omega)
      · intro more
        have stopped := stop (by omega)
        have := shift (count + 1)
        push_cast at this ⊢
        rw [this]
        exact stopped

theorem reach_last {inside : Int → Bool} {limit : Nat} {position last : Int}
    (start : position ≤ last) (room : last ≤ position + limit)
    (run : ∀ place, position ≤ place → place ≤ last → inside place = true)
    (stop : inside (last + 1) = false) : reach inside 1 limit position = last := by
  obtain ⟨count, _, reached, filled, ended⟩ := reach_spec inside 1 limit position
  rw [reached]
  rcases Int.lt_trichotomy (position + 1 * count) last with short | same | long
  · have open_end := ended (by omega)
    rw [run _ (by omega) (by omega)] at open_end
    cases open_end
  · exact same
  · have beyond := filled (last + 1 - position).toNat (by omega) (by omega)
    have place : position + 1 * ((last + 1 - position).toNat : Int) = last + 1 := by omega
    rw [place, stop] at beyond
    cases beyond

theorem reach_first {inside : Int → Bool} {limit : Nat} {position first : Int}
    (start : first ≤ position) (room : position ≤ first + limit)
    (run : ∀ place, first ≤ place → place ≤ position → inside place = true)
    (stop : inside (first - 1) = false) : reach inside (-1) limit position = first := by
  obtain ⟨count, _, reached, filled, ended⟩ := reach_spec inside (-1) limit position
  rw [reached]
  rcases Int.lt_trichotomy (position + -1 * count) first with long | same | short
  · have beyond := filled (position - (first - 1)).toNat (by omega) (by omega)
    have place : position + -1 * ((position - (first - 1)).toNat : Int) = first - 1 := by omega
    rw [place, stop] at beyond
    cases beyond
  · exact same
  · have open_end := ended (by omega)
    rw [run _ (by omega) (by omega)] at open_end
    cases open_end

/-- A filled rectangle with background along each of its sides. -/
structure Isolated (mask : Mask) (bounds : Bounds) : Prop where
  filled : ∀ row column, bounds.Covers row column → mask.isForeground row column = true
  above : ∀ column, bounds.left ≤ column → column ≤ bounds.right →
    mask.isForeground (bounds.top - 1) column = false
  below : ∀ column, bounds.left ≤ column → column ≤ bounds.right →
    mask.isForeground (bounds.bottom + 1) column = false
  before : ∀ row, bounds.top ≤ row → row ≤ bounds.bottom →
    mask.isForeground row (bounds.left - 1) = false
  after : ∀ row, bounds.top ≤ row → row ≤ bounds.bottom →
    mask.isForeground row (bounds.right + 1) = false

/-- From any of its pixels an isolated rectangle is measured exactly. -/
theorem measure_isolated {mask : Mask} {bounds : Bounds} (isolated : Isolated mask bounds)
    {row column : Nat} (seed : bounds.Covers row column) :
    measure mask row column = ⟨row, column, bounds⟩ := by
  obtain ⟨top, left, bottom, right⟩ := bounds
  obtain ⟨filled, above, below, before, after⟩ := isolated
  simp only [Bounds.Covers] at seed filled above below before after
  have first := Mask.inside_of_isForeground (filled top left (by omega))
  have last := Mask.inside_of_isForeground (filled bottom right (by omega))
  have run_right : reach (fun column => mask.isForeground row column) 1 mask.width column = right :=
    reach_last (by omega) (by omega) (fun _ _ _ => filled _ _ (by omega))
      (after _ (by omega) (by omega))
  have middle_column : ((column : Int) + right).tdiv 2 = (column + right) / 2 :=
    Blob.half_of_nonneg (by omega)
  have up : reach (fun row => mask.isForeground row ((column + right) / 2)) (-1) mask.height row =
      top :=
    reach_first (by omega) (by omega) (fun _ _ _ => filled _ _ (by omega))
      (above _ (by omega) (by omega))
  have down : reach (fun row => mask.isForeground row ((column + right) / 2)) 1 mask.height row =
      bottom :=
    reach_last (by omega) (by omega) (fun _ _ _ => filled _ _ (by omega))
      (below _ (by omega) (by omega))
  have middle_row : (top + bottom).tdiv 2 = (top + bottom) / 2 := Blob.half_of_nonneg (by omega)
  have leftward : reach (fun column => mask.isForeground ((top + bottom) / 2) column) (-1) mask.width
      ((column + right) / 2) = left :=
    reach_first (by omega) (by omega) (fun _ _ _ => filled _ _ (by omega))
      (before _ (by omega) (by omega))
  have rightward : reach (fun column => mask.isForeground ((top + bottom) / 2) column) 1 mask.width
      ((column + right) / 2) = right :=
    reach_last (by omega) (by omega) (fun _ _ _ => filled _ _ (by omega))
      (after _ (by omega) (by omega))
  simp only [measure, run_right, middle_column, up, down, middle_row, leftward, rightward]
  rw [Int.min_eq_left seed.2.2.1, Int.max_self]

end TouchTracking.Detector
