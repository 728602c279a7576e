import Mathlib.Data.Int.LeastGreatest
import Mathlib.Logic.Relation
import TouchTracking.Proofs.Grouping

/-! Measured boxes and the shapes in the mask. The three runs that the probes follow cross each other, so
that from the seed every pixel of them is reached by steps that stay in the foreground. A measured box is
the smallest one around these runs: it has a pixel of the connected region of its seed on each side, and
nothing of it is outside of the smallest box around that region. -/
namespace TouchTracking

open Raster (Mask)

def Raster.Adjacent (pixel other : Int × Int) : Prop :=
  (pixel.1 - other.1).natAbs + (pixel.2 - other.2).natAbs = 1

theorem Raster.Adjacent.symm {pixel other : Int × Int} (adjacent : Adjacent pixel other) :
    Adjacent other pixel := by
  unfold Adjacent at adjacent ⊢
  omega

namespace Raster.Mask

structure Borders (mask : Mask) (pixel other : Int × Int) : Prop where
  adjacent : Adjacent pixel other
  shown : mask.isForeground pixel.1 pixel.2 = true
  shown' : mask.isForeground other.1 other.2 = true

abbrev Connected (mask : Mask) : Int × Int → Int × Int → Prop := Relation.ReflTransGen mask.Borders

def region (mask : Mask) (pixel other : Int × Int) : Prop :=
  mask.isForeground other.1 other.2 = true ∧ mask.Connected pixel other

instance (mask : Mask) : Std.Symm mask.Borders :=
  ⟨fun _ _ border => ⟨border.adjacent.symm, border.shown', border.shown⟩⟩

/-- Along a line all of whose pixels are in the foreground, every two of them are connected. -/
theorem connected_line {mask : Mask} (line : Int → Int × Int) {low high : Int}
    (adjacent : ∀ place, Adjacent (line place) (line (place + 1)))
    (shown : ∀ place, low ≤ place → place ≤ high → mask.isForeground (line place).1 (line place).2 = true)
    {place other : Int} (here : low ≤ place ∧ place ≤ high) (there : low ≤ other ∧ other ≤ high) :
    mask.Connected (line place) (line other) := by
  have forward (start : Int) (count : Nat) (first : low ≤ start) (last : start + count ≤ high) :
      mask.Connected (line start) (line (start + count)) := by
    induction count with
    | zero => simpa using .refl
    | succ count ih =>
      have next : start + (count + 1 : Nat) = start + count + 1 := by omega
      rw [next] at last ⊢
      exact (ih (by omega)).tail
        ⟨adjacent _, shown _ (by omega) (by omega), shown _ (by omega) last⟩
  rcases Int.le_total place other with before | behind
  · obtain ⟨count, rfl⟩ := Int.le.dest before
    exact forward place count here.1 there.2
  · obtain ⟨count, rfl⟩ := Int.le.dest behind
    exact Relation.ReflTransGen.stdSymm.symm _ _ (forward other count there.1 here.2)

theorem connected_row {mask : Mask} {row low high place other : Int}
    (shown : ∀ place, low ≤ place → place ≤ high → mask.isForeground row place = true)
    (here : low ≤ place ∧ place ≤ high) (there : low ≤ other ∧ other ≤ high) :
    mask.Connected (row, place) (row, other) :=
  connected_line (fun place => (row, place)) (fun _ => by simp only [Adjacent]; omega) shown here there

theorem connected_column {mask : Mask} {column low high place other : Int}
    (shown : ∀ place, low ≤ place → place ≤ high → mask.isForeground place column = true)
    (here : low ≤ place ∧ place ≤ high) (there : low ≤ other ∧ other ≤ high) :
    mask.Connected (place, column) (other, column) :=
  connected_line (fun place => (place, column)) (fun _ => by simp only [Adjacent]; omega) shown here there

end Raster.Mask

namespace Bounds

/-- Each side of the rectangle holds a pixel of the region. -/
structure Touches (bounds : Bounds) (region : Int × Int → Prop) : Prop where
  top : ∃ column, region (bounds.top, column) ∧ bounds.Covers bounds.top column
  left : ∃ row, region (row, bounds.left) ∧ bounds.Covers row bounds.left
  bottom : ∃ column, region (bounds.bottom, column) ∧ bounds.Covers bounds.bottom column
  right : ∃ row, region (row, bounds.right) ∧ bounds.Covers row bounds.right

/-- The smallest rectangle around a region. -/
structure Confines (bounds : Bounds) (region : Int × Int → Prop) : Prop extends bounds.Touches region where
  covers : ∀ pixel, region pixel → bounds.Covers pixel.1 pixel.2

variable {bounds frame : Bounds} {region region' : Int × Int → Prop}

theorem Touches.mono (touches : bounds.Touches region) (wider : ∀ pixel, region pixel → region' pixel) :
    bounds.Touches region' where
  top := touches.top.imp fun _ => .imp_left (wider _)
  left := touches.left.imp fun _ => .imp_left (wider _)
  bottom := touches.bottom.imp fun _ => .imp_left (wider _)
  right := touches.right.imp fun _ => .imp_left (wider _)

theorem Confines.encloses (confines : frame.Confines region) (touches : bounds.Touches region) :
    frame.Encloses bounds := by
  obtain ⟨⟨_, top, -⟩, ⟨_, left, -⟩, ⟨_, bottom, -⟩, ⟨_, right, -⟩⟩ := touches
  exact ⟨(confines.covers _ top).1, (confines.covers _ left).2.2.1, (confines.covers _ bottom).2.1,
    (confines.covers _ right).2.2.2⟩

theorem exists_least (measure : Int × Int → Int) (bound : Int) {pixel : Int × Int} (member : region pixel)
    (above : ∀ pixel, region pixel → bound ≤ measure pixel) :
    ∃ least, region least ∧ ∀ other, region other → measure least ≤ measure other := by
  obtain ⟨_, ⟨least, found, rfl⟩, lower⟩ := Int.exists_least_of_bdd
    (P := fun value => ∃ pixel, region pixel ∧ measure pixel = value)
    ⟨bound, by rintro _ ⟨other, found, rfl⟩; exact above other found⟩ ⟨_, pixel, member, rfl⟩
  exact ⟨least, found, fun other inside => lower _ ⟨other, inside, rfl⟩⟩

theorem exists_confines {height width : Int} {pixel : Int × Int} (member : region pixel)
    (inside : ∀ pixel, region pixel → (0 ≤ pixel.1 ∧ pixel.1 < height) ∧ 0 ≤ pixel.2 ∧ pixel.2 < width) :
    ∃ frame : Bounds, frame.Confines region := by
  obtain ⟨topmost, top_member, above⟩ := exists_least Prod.fst 0 member fun other found =>
    (inside other found).1.1
  obtain ⟨leftmost, left_member, before⟩ := exists_least Prod.snd 0 member fun other found =>
    (inside other found).2.1
  obtain ⟨lowest, bottom_member, below⟩ := exists_least (fun pixel => -pixel.1) (-height) member
    fun other found => Int.neg_le_neg (Int.le_of_lt (inside other found).1.2)
  obtain ⟨rightmost, right_member, behind⟩ := exists_least (fun pixel => -pixel.2) (-width) member
    fun other found => Int.neg_le_neg (Int.le_of_lt (inside other found).2.2)
  have covers (other : Int × Int) (found : region other) :
      Bounds.Covers ⟨topmost.1, leftmost.2, lowest.1, rightmost.2⟩ other.1 other.2 :=
    ⟨above other found, Int.le_of_neg_le_neg (below other found), before other found,
      Int.le_of_neg_le_neg (behind other found)⟩
  exact ⟨_, ⟨⟨_, top_member, covers _ top_member⟩, ⟨_, left_member, covers _ left_member⟩,
    ⟨_, bottom_member, covers _ bottom_member⟩, ⟨_, right_member, covers _ right_member⟩⟩, covers⟩

end Bounds

namespace Detector

/-- What is connected in what is left of a mask was connected in the mask. -/
theorem Remains.region {mask rest : Mask} (remains : Remains mask rest) {pixel other : Int × Int}
    (found : rest.region pixel other) : mask.region pixel other := by
  refine ⟨remains.shown _ _ found.1, Relation.ReflTransGen.mono (fun _ _ border => ?_) _ _ found.2⟩
  exact ⟨border.adjacent, remains.shown _ _ border.shown, remains.shown _ _ border.shown'⟩

/-- The box around three runs that cross has on each side an end of one of them. -/
theorem Crossing.touches {mask : Mask} {row column : Int} (crossing : Crossing mask row column) :
    crossing.bounds.Touches (mask.region (row, column)) := by
  obtain ⟨runRight, middleColumn, top, bottom, middleRow, first, last, onRun, aroundSeed, onColumn,
    aroundMiddle, run, upright, across⟩ := crossing
  have onward (place : Int) (inside : column ≤ place ∧ place ≤ runRight) :
      mask.region (row, column) (row, place) :=
    ⟨run place inside.1 inside.2, Mask.connected_row run (by omega) inside⟩
  have along (place : Int) (inside : top ≤ place ∧ place ≤ bottom) :
      mask.region (row, column) (place, middleColumn) :=
    ⟨upright place inside.1 inside.2,
      (onward middleColumn onRun).2.trans (Mask.connected_column upright aroundSeed inside)⟩
  have sideways (place : Int) (inside : first ≤ place ∧ place ≤ last) :
      mask.region (row, column) (middleRow, place) :=
    ⟨across place inside.1 inside.2,
      (along middleRow onColumn).2.trans (Mask.connected_row across aroundMiddle inside)⟩
  -- the second run across may fall short of the first one on either side
  have leftmost : ∃ place, mask.region (row, column) (place, min first column) ∧
      top ≤ place ∧ place ≤ bottom := by
    rcases Int.le_total first column with beyond | short
    · rw [Int.min_eq_left beyond]
      exact ⟨middleRow, sideways first (by omega), onColumn⟩
    · rw [Int.min_eq_right short]
      exact ⟨row, onward column (by omega), aroundSeed⟩
  have rightmost : ∃ place, mask.region (row, column) (place, max last runRight) ∧
      top ≤ place ∧ place ≤ bottom := by
    rcases Int.le_total runRight last with beyond | short
    · rw [Int.max_eq_left beyond]
      exact ⟨middleRow, sideways last (by omega), onColumn⟩
    · rw [Int.max_eq_right short]
      exact ⟨row, onward runRight (by omega), aroundSeed⟩
  obtain ⟨leftRow, left_found, left_inside⟩ := leftmost
  obtain ⟨rightRow, right_found, right_inside⟩ := rightmost
  refine ⟨⟨middleColumn, along top (by omega), ?_⟩, ⟨leftRow, left_found, ?_⟩,
    ⟨middleColumn, along bottom (by omega), ?_⟩, ⟨rightRow, right_found, ?_⟩⟩ <;>
  · simp only [Bounds.Covers, bounds]
    omega

theorem Scanned.touches {mask : Mask} {measurement : Measurement} (scanned : Scanned mask measurement) :
    measurement.bounds.Touches (mask.region (measurement.row, measurement.column)) := by
  obtain ⟨rest, remains, shown, measured⟩ := scanned
  obtain ⟨crossing, bounds⟩ := measure_crossing shown
  rw [← measured] at bounds
  rw [bounds]
  exact crossing.touches.mono fun _ => remains.region

end Detector

/-- Every measured box, of wanted size or not, lies in the mask, holds its seed, is enclosed by the
smallest box around the connected region of the seed in the mask as it was given, and has on each of its
sides a pixel of that region. -/
theorem measured_box_spanned {detector : Detector} {mask : Mask} {measurement : Measurement}
    (measured : measurement ∈ detector.measurements mask) :
    measurement.bounds.Covers measurement.row measurement.column ∧
      measurement.bounds.Within mask.height mask.width ∧
      (∃ frame : Bounds, frame.Confines (mask.region (measurement.row, measurement.column)) ∧
        frame.Encloses measurement.bounds) ∧
      measurement.bounds.Touches (mask.region (measurement.row, measurement.column)) := by
  have scanned := Detector.mem_measurements measured
  obtain ⟨within, seed⟩ := scanned.within
  have touches := scanned.touches
  obtain ⟨_, member, -⟩ := touches.top
  have inside (pixel : Int × Int) (found : mask.region (measurement.row, measurement.column) pixel) :
      (0 ≤ pixel.1 ∧ pixel.1 < mask.height) ∧ 0 ≤ pixel.2 ∧ pixel.2 < mask.width := by
    have := Mask.inside_of_isForeground found.1
    omega
  obtain ⟨frame, confines⟩ := Bounds.exists_confines member inside
  exact ⟨seed, within, ⟨frame, confines, confines.encloses touches⟩, touches⟩

/-- A box measured where an earlier one was cleared: its column ends where that one began, and the region
of its seed goes on beyond. -/
theorem measured_box_spanned_bridged :
    (⟨6, 0, ⟨2, 0, 6, 6⟩⟩ : Measurement) ∈ Detector.fine.measurements bridged ∧
    (⟨2, 0, 6, 6⟩ : Bounds).Covers 6 0 ∧
    (⟨2, 0, 6, 6⟩ : Bounds).Within bridged.height bridged.width ∧
    (∃ frame : Bounds, frame.Confines (bridged.region (6, 0)) ∧ frame.Encloses ⟨2, 0, 6, 6⟩) ∧
    (⟨2, 0, 6, 6⟩ : Bounds).Touches (bridged.region (6, 0)) :=
  have measured : (⟨6, 0, ⟨2, 0, 6, 6⟩⟩ : Measurement) ∈ Detector.fine.measurements bridged := by
    decide +kernel
  ⟨measured, measured_box_spanned measured⟩

end TouchTracking
