import TouchTracking.Proofs.Detection
import TouchTracking.Proofs.Merging

/-! The detector on masks of any shape. From a pixel of the foreground the probes follow three runs that
cross, so that the measured box lies in the mask whatever is drawn there; the scan measures in what is
left of the mask; and a hull of boxes in the mask lies in the mask and is at least as large as each. -/
namespace TouchTracking

open Raster (Mask)

structure Bounds.Within (bounds : Bounds) (height width : Nat) : Prop where
  top : 0 ≤ bounds.top
  rows : bounds.top ≤ bounds.bottom
  bottom : bounds.bottom < height
  left : 0 ≤ bounds.left
  columns : bounds.left ≤ bounds.right
  right : bounds.right < width

/-- In a frame whose sides are words nothing is cut. -/
theorem Bounds.Within.inRange {bounds : Bounds} {height width : Nat} (within : bounds.Within height width)
    (narrow : width < 2 ^ 31) (low : height < 2 ^ 31) : bounds.InRange := by
  obtain ⟨top, rows, bottom, left, columns, right⟩ := within
  constructor <;> omega

namespace Detector

/-- A probe toward greater positions passes over positions inside only. -/
theorem reach_forward (inside : Int → Bool) (limit : Nat) {position : Int}
    (start : inside position = true) : position ≤ reach inside 1 limit position ∧
      ∀ place, position ≤ place → place ≤ reach inside 1 limit position → inside place = true := by
  obtain ⟨count, -, reached, run, -⟩ := reach_spec inside 1 limit position
  rw [reached]
  refine ⟨by omega, fun place first last => ?_⟩
  rcases Int.le_iff_eq_or_lt.mp first with rfl | beyond
  · exact start
  · have walked : place = position + 1 * ((place - position).toNat : Int) := by omega
    rw [walked]
    exact run _ (by omega) (by omega)

/-- A probe toward smaller positions passes over positions inside only. -/
theorem reach_backward (inside : Int → Bool) (limit : Nat) {position : Int}
    (start : inside position = true) : reach inside (-1) limit position ≤ position ∧
      ∀ place, reach inside (-1) limit position ≤ place → place ≤ position → inside place = true := by
  obtain ⟨count, -, reached, run, -⟩ := reach_spec inside (-1) limit position
  rw [reached]
  refine ⟨by omega, fun place first last => ?_⟩
  rcases Int.le_iff_eq_or_lt.mp last with rfl | before
  · exact start
  · have walked : place = position + -1 * ((position - place).toNat : Int) := by omega
    rw [walked]
    exact run _ (by omega) (by omega)

/-- Probes both ways from a position inside end at the ends of a run around it. -/
theorem reach_around (inside : Int → Bool) (limit : Nat) {position : Int}
    (start : inside position = true) :
    (reach inside (-1) limit position ≤ position ∧ position ≤ reach inside 1 limit position) ∧
      ∀ place, reach inside (-1) limit position ≤ place → place ≤ reach inside 1 limit position →
        inside place = true := by
  obtain ⟨before, left⟩ := reach_backward inside limit start
  obtain ⟨behind, right⟩ := reach_forward inside limit start
  refine ⟨⟨before, behind⟩, fun place first last => ?_⟩
  rcases Int.le_total place position with near | far
  · exact left place first near
  · exact right place far last

/-- Three runs of foreground: from the seed to the right, up and down through a pixel of that run, and
left and right through a pixel of the second one. -/
structure Crossing (mask : Mask) (row column : Int) where
  runRight : Int
  middleColumn : Int
  top : Int
  bottom : Int
  middleRow : Int
  first : Int
  last : Int
  onRun : column ≤ middleColumn ∧ middleColumn ≤ runRight
  aroundSeed : top ≤ row ∧ row ≤ bottom
  onColumn : top ≤ middleRow ∧ middleRow ≤ bottom
  aroundMiddle : first ≤ middleColumn ∧ middleColumn ≤ last
  run : ∀ place, column ≤ place → place ≤ runRight → mask.isForeground row place = true
  upright : ∀ place, top ≤ place → place ≤ bottom → mask.isForeground place middleColumn = true
  across : ∀ place, first ≤ place → place ≤ last → mask.isForeground middleRow place = true

def Crossing.bounds {mask : Mask} {row column : Int} (crossing : Crossing mask row column) : Bounds :=
  ⟨crossing.top, min crossing.first column, crossing.bottom, max crossing.last crossing.runRight⟩

theorem Crossing.covers_seed {mask : Mask} {row column : Int} (crossing : Crossing mask row column) :
    crossing.bounds.Covers row column := by
  have run := crossing.onRun
  have seed := crossing.aroundSeed
  simp only [Bounds.Covers, bounds]
  omega

theorem Crossing.bounds_within {mask : Mask} {row column : Int}
    (crossing : Crossing mask row column) : crossing.bounds.Within mask.height mask.width := by
  have onRun := crossing.onRun
  have seed := crossing.aroundSeed
  have onColumn := crossing.onColumn
  have middle := crossing.aroundMiddle
  have right := Mask.inside_of_isForeground (crossing.run crossing.runRight (by omega) (by omega))
  have start := Mask.inside_of_isForeground (crossing.run column (by omega) (by omega))
  have top := Mask.inside_of_isForeground (crossing.upright crossing.top (by omega) (by omega))
  have bottom := Mask.inside_of_isForeground (crossing.upright crossing.bottom (by omega) (by omega))
  have first := Mask.inside_of_isForeground (crossing.across crossing.first (by omega) (by omega))
  have last := Mask.inside_of_isForeground (crossing.across crossing.last (by omega) (by omega))
  constructor <;> simp only [bounds] <;> omega

theorem middle_between {first last : Int} (start : 0 ≤ first) (order : first ≤ last) :
    first ≤ (first + last).tdiv 2 ∧ (first + last).tdiv 2 ≤ last := by
  rw [Blob.half_of_nonneg (by omega)]
  omega

/-- From a pixel of the foreground the probes find a crossing, and the box is the one around it. -/
theorem measure_crossing {mask : Mask} {row column : Nat}
    (shown : mask.isForeground row column = true) :
    ∃ crossing : Crossing mask row column, (measure mask row column).bounds = crossing.bounds := by
  obtain ⟨ahead, run⟩ := reach_forward (fun place => mask.isForeground row place) mask.width shown
  generalize run_right : reach _ 1 mask.width (column : Int) = runRight at ahead run
  have on_run := middle_between (Int.natCast_nonneg column) ahead
  generalize middle_column : ((column : Int) + runRight).tdiv 2 = middleColumn at on_run
  have center := run middleColumn on_run.1 on_run.2
  obtain ⟨around_seed, upright⟩ :=
    reach_around (fun place => mask.isForeground place middleColumn) mask.height center
  generalize run_top : reach _ (-1) mask.height (row : Int) = top at around_seed upright
  generalize run_bottom : reach _ 1 mask.height (row : Int) = bottom at around_seed upright
  have order := Int.le_trans around_seed.1 around_seed.2
  have start := Mask.inside_of_isForeground (upright top (Int.le_refl _) order)
  have on_column := middle_between start.1 order
  generalize middle_row : (top + bottom).tdiv 2 = middleRow at on_column
  have crossed := upright middleRow on_column.1 on_column.2
  obtain ⟨around_middle, across⟩ :=
    reach_around (fun place => mask.isForeground middleRow place) mask.width crossed
  generalize run_first : reach _ (-1) mask.width middleColumn = first at around_middle across
  generalize run_last : reach _ 1 mask.width middleColumn = last at around_middle across
  refine ⟨⟨runRight, middleColumn, top, bottom, middleRow, first, last, on_run, around_seed,
    on_column, around_middle, run, upright, across⟩, ?_⟩
  simp only [measure, Crossing.bounds, run_right, middle_column, run_top, run_bottom, middle_row,
    run_first, run_last]

/-- What a scan has left of a mask: the same frame, with some of the foreground cleared. -/
structure Remains (mask rest : Mask) : Prop where
  width : rest.width = mask.width
  height : rest.height = mask.height
  shown : ∀ row column, rest.isForeground row column = true → mask.isForeground row column = true

/-- A measuring from a seed that is still in the foreground of what is left of the mask. -/
def Scanned (mask : Mask) (measurement : Measurement) : Prop :=
  ∃ rest, Remains mask rest ∧ rest.isForeground measurement.row measurement.column = true ∧
    measurement = measure rest measurement.row measurement.column

/-- At every moment of a scan, its mask is left of the first one, and so it was at every measuring. -/
structure Scan.Sound (mask : Mask) (scan : Scan) : Prop where
  remains : Remains mask scan.mask
  scanned : ∀ measurement ∈ scan.measured, Scanned mask measurement

theorem Scan.Sound.visit {mask : Mask} {scan : Scan} (sound : scan.Sound mask) (seed : Nat × Nat) :
    (scan.visit seed).Sound mask := by
  unfold Scan.visit
  split
  next shown =>
    obtain ⟨width, height, kept⟩ := sound.remains
    refine ⟨⟨?_, ?_, fun row column left => ?_⟩, fun measurement member => ?_⟩
    · exact (Mask.width_erase ..).trans width
    · exact (Mask.height_erase ..).trans height
    · exact kept row column ((Mask.isForeground_erase ..).mp left).1
    · rcases List.mem_cons.mp member with rfl | earlier
      · exact ⟨scan.mask, sound.remains, shown, rfl⟩
      · exact sound.scanned measurement earlier
  next => exact sound

theorem Scan.Sound.foldl_visit {mask : Mask} {scan : Scan} (sound : scan.Sound mask)
    (seeds : List (Nat × Nat)) : (seeds.foldl Scan.visit scan).Sound mask := by
  induction seeds generalizing scan with
  | nil => exact sound
  | cons seed seeds ih => exact ih (sound.visit seed)

theorem mem_measurements {detector : Detector} {mask : Mask} {measurement : Measurement}
    (member : measurement ∈ detector.measurements mask) : Scanned mask measurement := by
  have start : Scan.Sound mask ⟨mask, []⟩ := ⟨⟨rfl, rfl, fun _ _ shown => shown⟩, nofun⟩
  exact (start.foldl_visit (detector.grid mask)).scanned measurement (List.mem_reverse.mp member)

/-- A measured box lies in the mask and holds its seed. -/
theorem Scanned.within {mask : Mask} {measurement : Measurement} (scanned : Scanned mask measurement) :
    measurement.bounds.Within mask.height mask.width ∧
      measurement.bounds.Covers measurement.row measurement.column := by
  obtain ⟨rest, ⟨width, height, -⟩, shown, measured⟩ := scanned
  obtain ⟨crossing, bounds⟩ := measure_crossing shown
  rw [← measured] at bounds
  rw [bounds, ← width, ← height]
  exact ⟨crossing.bounds_within, crossing.covers_seed⟩

end Detector

/-- The box lies in a frame of the given size, and neither side is below the limit. -/
structure Blob.Sized (height width : Nat) (least : Int) (blob : Blob) : Prop where
  within : blob.bounds.Within height width
  wide : least ≤ blob.width
  high : least ≤ blob.height

structure Blob.Lies (height width : Nat) (blob : Blob) : Prop where
  held : blob.Held
  within : blob.bounds.Within height width

theorem Blob.within_hull {height width : Nat} {blob other : Blob} (within : blob.bounds.Within height width)
    (within' : other.bounds.Within height width) : (blob.hull other).bounds.Within height width := by
  obtain ⟨top, rows, bottom, left, columns, right⟩ := within
  obtain ⟨top', rows', bottom', left', columns', right'⟩ := within'
  rw [bounds_hull]
  simp only [bounds] at *
  constructor <;> simp only <;> omega

theorem Blob.Lies.exact {height width : Nat} {blob : Blob} (lies : blob.Lies height width)
    (inRange : width < 2 ^ 31 ∧ height < 2 ^ 31) : blob.InRange ∧ blob.Shrinkable :=
  lies.held.exact (lies.within.inRange inRange.1 inRange.2)

theorem Blob.Lies.hull {height width : Nat} {blob other : Blob} (lies : blob.Lies height width)
    (lies' : other.Lies height width) : (blob.hull other).Lies height width :=
  ⟨held_hull blob other, within_hull lies.within lies'.within⟩

theorem Detector.lies_of_measured {detector : Detector} {mask : Mask} (inRange : mask.InRange) {blob : Blob}
    (measured : blob ∈ (detector.measurements mask).map Measurement.blob) :
    blob.Lies mask.height mask.width := by
  obtain ⟨measurement, taken, rfl⟩ := List.mem_map.mp measured
  have within := (mem_measurements taken).within.1
  refine ⟨Blob.held_ofBounds _, ?_⟩
  rw [Measurement.blob, (within.inRange inRange.1 inRange.2).bounds_ofBounds]
  exact within

/-- Every box that a detector finds lies in the mask, whatever its parameters are. -/
theorem Detector.lies_of_detected {detector : Detector} {mask : Mask} (inRange : mask.InRange) {blob : Blob}
    (found : blob ∈ detector.detect mask) : blob.Lies mask.height mask.width :=
  Blob.foldl_merge_keeps (Blob.Lies mask.height mask.width) (fun _ _ => Blob.Lies.hull) (List.forall_mem_nil _)
    (fun _ member => lies_of_measured inRange (List.mem_of_mem_filter member)) blob found

theorem Blob.Sized.hull {height width : Nat} (narrow : width < 2 ^ 31) (low : height < 2 ^ 31) {least : Int}
    {blob other : Blob} (held : blob.Held) (sized : blob.Sized height width least)
    (sized' : other.Sized height width least) : (blob.hull other).Sized height width least := by
  obtain ⟨within, wide, high⟩ := sized
  have joined := within_hull within sized'.within
  obtain ⟨-, width_eq, height_eq⟩ := held.fields (within.inRange narrow low)
  obtain ⟨-, hull_width, hull_height⟩ := (held_hull blob other).fields (joined.inRange narrow low)
  have bounds := bounds_hull blob other
  simp only [Blob.bounds, Bounds.mk.injEq] at bounds
  refine ⟨joined, ?_, ?_⟩ <;> omega

/-- For every mask the reported boxes lie in the mask, have no side below the smallest one sought, and
do not overlap each other. -/
theorem detect_well_formed (detector : Detector) (mask : Mask) (inRange : mask.InRange)
    (small : detector.maxSize < 2 ^ 31) :
    (∀ blob ∈ detector.detect mask, blob.Sized mask.height mask.width detector.minSize) ∧
      Blob.Apart (detector.detect mask) := by
  refine ⟨fun blob found => ?_, Blob.foldl_merge_apart .nil _⟩
  refine (Blob.foldl_merge_keeps (fun blob => blob.Held ∧ blob.Sized mask.height mask.width detector.minSize)
    (fun blob other here there => ⟨Blob.held_hull blob other,
      here.2.hull inRange.1 inRange.2 here.1 there.2⟩) (List.forall_mem_nil _) (fun blob member => ?_) blob found).2
  obtain ⟨measured, accepted⟩ := List.mem_filter.mp member
  obtain ⟨held, within⟩ := Detector.lies_of_measured inRange measured
  obtain ⟨measurement, taken, rfl⟩ := List.mem_map.mp measured
  have exact := (Detector.mem_measurements taken).within.1.inRange inRange.1 inRange.2
  rw [Measurement.blob, Detector.accepts_ofBounds small exact, decide_eq_true_eq] at accepted
  have wide : measurement.blob.width = _ := congrArg Blob.width exact.ofBounds_eq
  have high : measurement.blob.height = _ := congrArg Blob.height exact.ofBounds_eq
  exact ⟨held, within, wide ▸ accepted.1.1, high ▸ accepted.2.1⟩

/-- A square and two that share a corner pixel, measured one by one and joined. -/
def chained : Mask := Drawing.picture 10 10 [⟨2, 0, 5, 2⟩, ⟨6, 6, 7, 7⟩, ⟨7, 7, 9, 9⟩]

def Detector.fine : Detector := ⟨2, 8, by decide, by decide⟩

theorem chained_inRange : chained.InRange := Drawing.picture_inRange (by decide) (by decide) _

theorem detect_well_formed_chained :
    (Detector.fine.detect chained).map Blob.bounds = [⟨2, 0, 5, 2⟩, ⟨6, 6, 9, 9⟩] ∧
    chained.InRange ∧ Detector.fine.maxSize < 2 ^ 31 ∧
    (∀ blob ∈ Detector.fine.detect chained,
      blob.Sized chained.height chained.width Detector.fine.minSize) ∧
      Blob.Apart (Detector.fine.detect chained) :=
  ⟨by decide +kernel, chained_inRange, by decide,
    detect_well_formed Detector.fine chained chained_inRange (by decide)⟩

end TouchTracking
