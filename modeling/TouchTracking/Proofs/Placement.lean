import Mathlib.Data.List.Sort
import TouchTracking.Proofs.Grouping

/-! A picture on a larger canvas. When a mask is shown on a canvas with background around it, moved down and to the
right by whole steps of the seed grid, a scan of the canvas sees at the moved seeds what a scan of the mask sees at its
own, and nothing at any other; so it measures the moved boxes, in the same order, and joins them in the same way. -/
namespace TouchTracking

open Raster (Mask Precedes)

def Bounds.shift (down across : Int) (bounds : Bounds) : Bounds :=
  ⟨bounds.top + down, bounds.left + across, bounds.bottom + down, bounds.right + across⟩

@[simp] theorem Bounds.covers_shift (bounds : Bounds) (down across row column : Int) :
    (bounds.shift down across).Covers (row + down) (column + across) ↔ bounds.Covers row column := by
  simp only [Covers, shift]
  omega

namespace Blob

def shift (down across : Int) (blob : Blob) : Blob :=
  { blob with centerRow := blob.centerRow + down, centerColumn := blob.centerColumn + across }

@[simp] theorem fits_shift (down across : Int) (blob : Blob) (smallest largest : Int) :
    (blob.shift down across).fits smallest largest = blob.fits smallest largest := rfl

/-- Nothing is cut when a rectangle in range is moved to another place in range. -/
theorem ofBounds_shift {down across : Int} {bounds : Bounds} (inRange : bounds.InRange)
    (inRange' : (bounds.shift down across).InRange) :
    ofBounds (bounds.shift down across) = (ofBounds bounds).shift down across := by
  rw [inRange.ofBounds_eq, inRange'.ofBounds_eq]
  simp only [Bounds.shift, shift, mk.injEq]
  omega

end Blob

/-- A frame of the given size, moved by the given steps, ends below half of the range of a word. -/
structure Room (height width down across : Nat) : Prop where
  low : down + height < 2 ^ 31
  narrow : across + width < 2 ^ 31

namespace Room

variable {height width down across : Nat} (room : Room height width down across) {bounds : Bounds} {blob other : Blob}

include room

theorem inRange (within : bounds.Within height width) : bounds.InRange ∧ (bounds.shift down across).InRange := by
  obtain ⟨low, narrow⟩ := room
  refine ⟨within.inRange (by omega) (by omega), ?_⟩
  obtain ⟨top, rows, bottom, left, columns, right⟩ := within
  constructor <;> simp only [Bounds.shift] <;> omega

theorem bounds_shift (lies : blob.Lies height width) :
    (blob.shift down across).bounds = blob.bounds.shift down across := by
  obtain ⟨here, there⟩ := room.inRange lies.within
  rw [← lies.held.eq_ofBounds here, ← Blob.ofBounds_shift here there, there.bounds_ofBounds, here.bounds_ofBounds]

theorem contains_shift (lies : blob.Lies height width) (row column : Int) :
    (blob.shift down across).contains (row + down) (column + across) = blob.contains row column := by
  rw [Bool.eq_iff_iff, Blob.contains_iff, Blob.contains_iff, room.bounds_shift lies, Bounds.covers_shift]

theorem overlaps_shift (lies : blob.Lies height width) (lies' : other.Lies height width) :
    (blob.shift down across).overlaps (other.shift down across) = blob.overlaps other :=
  congrArg₂ (· || ·) (room.contains_shift lies ..) (room.contains_shift lies' ..)

theorem hull_shift (lies : blob.Lies height width) (lies' : other.Lies height width) :
    (blob.shift down across).hull (other.shift down across) = (blob.hull other).shift down across := by
  have sides := room.bounds_shift lies
  have sides' := room.bounds_shift lies'
  have joined := (lies.hull lies').within
  rw [Blob.bounds_hull] at joined
  obtain ⟨here, there⟩ := room.inRange joined
  simp only [Blob.bounds, Bounds.shift, Bounds.mk.injEq] at sides sides'
  rw [Blob.hull, Blob.hull, ← Blob.ofBounds_shift here there]
  congr 1
  simp only [Bounds.shift, Bounds.mk.injEq]
  omega

end Room

namespace Blob

namespace Growth

def shift (down across : Int) (growth : Growth) : Growth :=
  ⟨growth.kept.map (Blob.shift down across), growth.hull.shift down across, growth.slot⟩

/-- The hull and all boxes that it has not reached lie in the frame. -/
structure Lies (height width : Nat) (growth : Growth) : Prop where
  hull : growth.hull.Lies height width
  kept : ∀ other ∈ growth.kept, other.Lies height width

variable {height width down across : Nat} (room : Room height width down across)

include room

/-- The hull reaches the same kept box first. -/
theorem findIdx?_shift {growth : Growth} (lies : growth.Lies height width) :
    (growth.shift down across).kept.findIdx? (·.overlaps (growth.shift down across).hull) =
      growth.kept.findIdx? (·.overlaps growth.hull) := by
  obtain ⟨kept, hull, slot⟩ := growth
  obtain ⟨hull_lies, known⟩ := lies
  simp only [shift] at known hull_lies ⊢
  induction kept with
  | nil => rfl
  | cons other kept ih =>
    obtain ⟨first, rest⟩ := List.forall_mem_cons.mp known
    simp only [List.map_cons, List.findIdx?_cons, room.overlaps_shift first hull_lies, ih rest]

theorem absorb_shift {growth : Growth} (lies : growth.Lies height width) (index : Nat) {absorbed : Blob}
    (lies' : absorbed.Lies height width) :
    (growth.shift down across).absorb index (absorbed.shift down across) =
      (growth.absorb index absorbed).shift down across := by
  simp only [absorb, shift, room.hull_shift lies.hull lies', List.eraseIdx_map]

theorem run_shift {growth : Growth} (lies : growth.Lies height width) :
    (growth.shift down across).run = growth.run.shift down across := by
  fun_induction Growth.run growth with
  | case1 growth clear =>
    rw [Growth.run.eq_def, findIdx?_shift room lies, clear]
  | case2 growth index found inside ih =>
    have inside' : index < (growth.shift down across).kept.length := by simpa [shift] using inside
    have absorbed : (growth.shift down across).kept[index] = growth.kept[index].shift down across :=
      List.getElem_map ..
    have reached := lies.kept _ (List.getElem_mem inside)
    have later : (growth.absorb index growth.kept[index]).Lies height width :=
      ⟨lies.hull.hull reached, fun other member => lies.kept other (List.mem_of_mem_eraseIdx member)⟩
    rw [Growth.run.eq_def, findIdx?_shift room lies, found]
    simp only [inside', dite_true]
    rw [absorbed, absorb_shift room lies index reached, ih later]
  | case3 growth index found outside =>
    obtain ⟨inside, -⟩ := List.findIdx?_eq_some_iff_getElem.mp found
    exact absurd inside outside

end Growth

variable {height width down across : Nat} (room : Room height width down across)

include room

theorem merge_shift {kept : List Blob} {blob : Blob} (known : ∀ other ∈ kept, other.Lies height width)
    (lies : blob.Lies height width) :
    merge (kept.map (shift down across)) (blob.shift down across) =
      (merge kept blob).map (shift down across) := by
  have start : Growth.Lies height width ⟨kept, blob, none⟩ := ⟨lies, known⟩
  have grown : (Growth.shift down across ⟨kept, blob, none⟩).run = _ := Growth.run_shift room start
  simp only [merge]
  rw [show Growth.mk (kept.map (shift down across)) (blob.shift down across) none =
    (Growth.mk kept blob none).shift down across from rfl, grown]
  generalize Growth.run ⟨kept, blob, none⟩ = growth
  obtain ⟨left, hull, slot⟩ := growth
  cases slot with
  | none => simp [Growth.shift]
  | some slot => simp [Growth.shift, List.map_insertIdx]

theorem foldl_merge_shift {kept blobs : List Blob} (known : ∀ other ∈ kept, other.Lies height width)
    (lies : ∀ blob ∈ blobs, blob.Lies height width) :
    (blobs.map (shift down across)).foldl merge (kept.map (shift down across)) =
      (blobs.foldl merge kept).map (shift down across) := by
  induction blobs generalizing kept with
  | nil => rfl
  | cons blob blobs ih =>
    obtain ⟨first, rest⟩ := List.forall_mem_cons.mp lies
    rw [List.map_cons, List.foldl_cons, merge_shift room known first, List.foldl_cons,
      ih (merge_keeps _ (fun _ _ => Lies.hull) known first) rest]

end Blob

/-- The mask is shown on the canvas, moved down and to the right, and around it the canvas is background. -/
structure Raster.Mask.Placed (down across : Nat) (mask canvas : Mask) : Prop where
  rows : down + mask.height ≤ canvas.height
  columns : across + mask.width ≤ canvas.width
  shown : ∀ row column : Int, canvas.isForeground (row + down) (column + across) = mask.isForeground row column

namespace Raster.Mask.Placed

variable {down across : Nat} {mask canvas : Mask}

/-- What is cleared on both, in the same place, leaves the rest shown as before. -/
theorem erase (placed : Placed down across mask canvas) (bounds : Bounds) :
    Placed down across (mask.erase bounds.top bounds.left bounds.bottom bounds.right)
      (canvas.erase (bounds.shift down across).top (bounds.shift down across).left
        (bounds.shift down across).bottom (bounds.shift down across).right) where
  rows := by
    rw [height_erase, height_erase]
    exact placed.rows
  columns := by
    rw [width_erase, width_erase]
    exact placed.columns
  shown row column := by
    rw [Bool.eq_iff_iff, isForeground_erase, isForeground_erase, placed.shown, Bounds.covers_shift]

/-- A pixel of the canvas that is not background is one of the mask, moved. -/
theorem exists_of_isForeground (placed : Placed down across mask canvas) {row column : Nat}
    (shown : canvas.isForeground row column = true) :
    (down ≤ row ∧ row - down < mask.height) ∧ across ≤ column ∧ column - across < mask.width := by
  have moved := placed.shown (row - down) (column - across)
  rw [Int.sub_add_cancel, Int.sub_add_cancel, shown] at moved
  have inside := inside_of_isForeground moved.symm
  omega

theorem inRange (placed : Placed down across mask canvas) (inRange : canvas.InRange) : mask.InRange :=
  ⟨Nat.lt_of_le_of_lt (Nat.le_trans (Nat.le_add_left ..) placed.columns) inRange.1,
    Nat.lt_of_le_of_lt (Nat.le_trans (Nat.le_add_left ..) placed.rows) inRange.2⟩

theorem shade (placed : Placed down across mask canvas) (inRange : canvas.InRange) {bounds : Bounds}
    (first : 0 ≤ bounds.top ∧ 0 ≤ bounds.left) (last : bounds.bottom < mask.height ∧ bounds.right < mask.width) :
    Placed down across (mask.shade bounds) (canvas.shade (bounds.shift down across)) where
  rows := by
    rw [height_shade, height_shade]
    exact placed.rows
  columns := by
    rw [width_shade, width_shade]
    exact placed.columns
  shown row column := by
    have rows := placed.rows
    have columns := placed.columns
    rw [Bool.eq_iff_iff, isForeground_shade _ inRange.addressable,
      isForeground_shade _ (placed.inRange inRange).addressable, placed.shown, Bounds.covers_shift]
    refine or_congr_right (and_congr_left fun covered => ?_)
    simp only [Bounds.Covers] at covered
    omega

theorem picture {width height width' height' : Nat} (narrow : width' < 2 ^ 31) (low : height' < 2 ^ 31)
    (rows : down + height ≤ height') (columns : across + width ≤ width') {rects : List Bounds}
    (inside : ∀ bounds ∈ rects, (0 ≤ bounds.top ∧ 0 ≤ bounds.left) ∧ bounds.bottom < height ∧ bounds.right < width) :
    Placed down across (Drawing.picture width height rects)
      (Drawing.picture width' height' (rects.map (Bounds.shift down across))) := by
  induction rects with
  | nil => exact ⟨rows, columns, fun _ _ => by simp [Drawing.picture, isForeground_blank]⟩
  | cons bounds rects ih =>
    obtain ⟨first, last⟩ := inside bounds List.mem_cons_self
    obtain ⟨wide, high⟩ := Drawing.size_picture width height rects
    have rest := ih fun other member => inside other (List.mem_cons_of_mem _ member)
    exact rest.shade (Drawing.picture_inRange narrow low _) first (by rw [wide, high]; exact last)

end Raster.Mask.Placed

namespace Detector

/-- A probe that has come to its end gains nothing from more room. -/
theorem reach_more {inside : Int → Bool} {step : Int} {limit : Nat} {position : Int}
    (ended : inside (position + step * (limit + 1)) = false) (more : Nat) :
    reach inside step (limit + more) position = reach inside step limit position := by
  induction limit generalizing position with
  | zero =>
    have stopped : inside (position + step) = false := by simpa using ended
    cases more with
    | zero => rfl
    | succ more => simp [reach, stopped]
  | succ limit ih =>
    have next : position + step * ((limit + 1 : Nat) + 1) = position + step + step * (limit + 1) := by
      push_cast
      simp only [Int.mul_add, Int.mul_one]
      omega
    rw [next] at ended
    rw [Nat.add_right_comm, reach, reach, ih ended]

theorem reach_shift {inside inside' : Int → Bool} {offset : Int}
    (same : ∀ place, inside' (place + offset) = inside place) (step : Int) (limit : Nat) (position : Int) :
    reach inside' step limit (position + offset) = reach inside step limit position + offset := by
  induction limit generalizing position with
  | zero => rfl
  | succ limit ih =>
    have next : position + offset + step = position + step + offset := by omega
    rw [reach, reach, next, same, ih]
    split <;> rfl

/-- A probe from a place in a frame, through moved places in a larger one. -/
theorem reach_placed {inside inside' : Int → Bool} {offset size size' : Nat}
    (same : ∀ place, inside' (place + offset) = inside place)
    (within : ∀ place, inside place = true → 0 ≤ place ∧ place < size) (room : size ≤ size') {step : Int}
    (unit : step = 1 ∨ step = -1) {position : Int} (start : 0 ≤ position ∧ position < size) :
    reach inside' step size' (position + offset) = reach inside step size position + offset := by
  have ended : inside (position + step * (size + 1)) = false := by
    rw [Bool.eq_false_iff]
    intro further
    have := within _ further
    rcases unit with rfl | rfl <;> omega
  obtain ⟨more, rfl⟩ := Nat.exists_eq_add_of_le room
  rw [reach_shift same, reach_more ended]

end Detector

namespace Measurement

def shift (down across : Nat) (measurement : Measurement) : Measurement :=
  ⟨measurement.row + down, measurement.column + across, measurement.bounds.shift down across⟩

theorem blob_shift {height width down across : Nat} (room : Room height width down across) {measurement : Measurement}
    (within : measurement.bounds.Within height width) :
    (measurement.shift down across).blob = measurement.blob.shift down across :=
  Blob.ofBounds_shift (room.inRange within).1 (room.inRange within).2

end Measurement

namespace Detector

section Placed

variable {down across : Nat} {mask canvas : Mask}

theorem reach_row_placed (placed : mask.Placed down across canvas) {step : Int} (unit : step = 1 ∨ step = -1)
    {row column : Int} (shown : mask.isForeground row column = true) :
    reach (fun place => canvas.isForeground (row + down) place) step canvas.width (column + across) =
      reach (fun place => mask.isForeground row place) step mask.width column + across := by
  have room := placed.columns
  exact reach_placed (fun place => placed.shown row place)
    (fun place inside => (Mask.inside_of_isForeground inside).2.2) (by omega) unit
    (Mask.inside_of_isForeground shown).2.2

theorem reach_column_placed (placed : mask.Placed down across canvas) {step : Int} (unit : step = 1 ∨ step = -1)
    {row column : Int} (shown : mask.isForeground row column = true) :
    reach (fun place => canvas.isForeground place (column + across)) step canvas.height (row + down) =
      reach (fun place => mask.isForeground place column) step mask.height row + down := by
  have room := placed.rows
  have inside := Mask.inside_of_isForeground shown
  exact reach_placed (fun place => placed.shown place column)
    (fun place shown => ⟨(Mask.inside_of_isForeground shown).1, (Mask.inside_of_isForeground shown).2.1⟩)
    (by omega) unit ⟨inside.1, inside.2.1⟩

theorem middle_shift {first last : Int} (start : 0 ≤ first) (order : first ≤ last) (offset : Nat) :
    (first + offset + (last + offset)).tdiv 2 = (first + last).tdiv 2 + offset := by
  rw [Blob.half_of_nonneg (by omega), Blob.half_of_nonneg (by omega)]
  omega

theorem measure_placed (placed : mask.Placed down across canvas) {row column : Nat}
    (shown : mask.isForeground row column = true) :
    measure canvas (row + down) (column + across) = (measure mask row column).shift down across := by
  -- each further probe of the mask starts on the run of the one before, so that it is in the foreground
  have moved_right := reach_row_placed placed (.inl rfl) shown
  obtain ⟨ahead, run⟩ := reach_forward (fun place => mask.isForeground row place) mask.width shown
  generalize run_right : reach _ 1 mask.width (column : Int) = runRight at ahead run moved_right
  have moved_middle := middle_shift (Int.natCast_nonneg column) ahead across
  have on_run := middle_between (Int.natCast_nonneg column) ahead
  generalize middle_column : ((column : Int) + runRight).tdiv 2 = middleColumn at on_run moved_middle
  have center := run middleColumn on_run.1 on_run.2
  have moved_top := reach_column_placed placed (.inr rfl) center
  have moved_bottom := reach_column_placed placed (.inl rfl) center
  obtain ⟨around_seed, upright⟩ :=
    reach_around (fun place => mask.isForeground place middleColumn) mask.height center
  generalize run_top : reach _ (-1) mask.height (row : Int) = top at around_seed upright moved_top
  generalize run_bottom : reach _ 1 mask.height (row : Int) = bottom at around_seed upright moved_bottom
  have order := Int.le_trans around_seed.1 around_seed.2
  have start := Mask.inside_of_isForeground (upright top (Int.le_refl _) order)
  have moved_center := middle_shift start.1 order down
  have on_column := middle_between start.1 order
  generalize middle_row : (top + bottom).tdiv 2 = middleRow at on_column moved_center
  have crossed := upright middleRow on_column.1 on_column.2
  have moved_first := reach_row_placed placed (.inr rfl) crossed
  have moved_last := reach_row_placed placed (.inl rfl) crossed
  simp only [measure, Measurement.shift, Bounds.shift, Int.natCast_add, moved_right, moved_middle, moved_top,
    moved_bottom, moved_center, moved_first, moved_last, run_right, middle_column, run_top, run_bottom, middle_row,
    Measurement.mk.injEq, Bounds.mk.injEq, true_and]
  omega

/-- Two scans, one of a mask and one of a canvas that shows it: what is left of the mask is shown by what is left of the
canvas, and the boxes measured so far are the same but for the move. -/
structure Scan.Placed (down across : Nat) (scan scan' : Scan) : Prop where
  mask : scan.mask.Placed down across scan'.mask
  measured : scan'.measured = scan.measured.map (Measurement.shift down across)

/-- The pixel of a mask of the given size that is shown at a pixel of the canvas. -/
def origin? (down across height width : Nat) (pixel : Nat × Nat) : Option (Nat × Nat) :=
  if (down ≤ pixel.1 ∧ pixel.1 - down < height) ∧ across ≤ pixel.2 ∧ pixel.2 - across < width then
    some (pixel.1 - down, pixel.2 - across)
  else none

theorem origin?_eq_some {down across height width : Nat} {pixel seed : Nat × Nat} :
    origin? down across height width pixel = some seed ↔
      (seed.1 < height ∧ seed.2 < width) ∧ pixel = (seed.1 + down, seed.2 + across) := by
  obtain ⟨row, column⟩ := pixel
  obtain ⟨row', column'⟩ := seed
  simp only [origin?, Option.ite_none_right_eq_some, Option.some.injEq, Prod.mk.injEq]
  omega

theorem Scan.size_visit (scan : Scan) (seed : Nat × Nat) :
    (scan.visit seed).mask.height = scan.mask.height ∧ (scan.visit seed).mask.width = scan.mask.width := by
  unfold Scan.visit
  split
  · exact ⟨Mask.height_erase .., Mask.width_erase ..⟩
  · exact ⟨rfl, rfl⟩

namespace Scan.Placed

variable {scan scan' : Scan}

/-- At a moved seed the one scan does what the other does at the seed. -/
theorem visit (placed : scan.Placed down across scan') (seed : Nat × Nat) :
    (scan.visit seed).Placed down across (scan'.visit (seed.1 + down, seed.2 + across)) := by
  obtain ⟨mask, measured⟩ := placed
  have same := mask.shown seed.1 seed.2
  unfold Scan.visit
  simp only [Int.natCast_add, same]
  split
  next shown =>
    have moved := measure_placed mask shown
    refine ⟨?_, ?_⟩
    · simp only [moved]
      exact mask.erase _
    · simp only [moved, measured, List.map_cons]
  next => exact ⟨mask, measured⟩

/-- At any other seed of the canvas there is only background. -/
theorem visit_around (placed : scan.Placed down across scan') {pixel : Nat × Nat}
    (around : origin? down across scan.mask.height scan.mask.width pixel = none) :
    scan.Placed down across (scan'.visit pixel) := by
  unfold Scan.visit
  split
  next shown =>
    have inside := placed.mask.exists_of_isForeground shown
    rw [origin?, if_pos inside] at around
    cases around
  next => exact placed

theorem foldl_visit (placed : scan.Placed down across scan') (pixels : List (Nat × Nat)) :
    ((pixels.filterMap (origin? down across scan.mask.height scan.mask.width)).foldl Scan.visit scan).Placed
      down across (pixels.foldl Scan.visit scan') := by
  induction pixels generalizing scan scan' with
  | nil => exact placed
  | cons pixel pixels ih =>
    cases found : origin? down across scan.mask.height scan.mask.width pixel with
    | none =>
      rw [List.filterMap_cons_none found, List.foldl_cons]
      exact ih (placed.visit_around found)
    | some seed =>
      obtain ⟨-, rfl⟩ := origin?_eq_some.mp found
      have visited := ih (placed.visit seed)
      obtain ⟨height, width⟩ := scan.size_visit seed
      rw [height, width] at visited
      rw [List.filterMap_cons_some found, List.foldl_cons, List.foldl_cons]
      exact visited

end Scan.Placed

/-- The seeds of the canvas that show a pixel of the mask are the moved seeds of the mask, in the same order. -/
theorem filterMap_origin?_grid (detector : Detector) (placed : mask.Placed down across canvas)
    (rows : detector.stride ∣ down) (columns : detector.stride ∣ across) :
    (detector.grid canvas).filterMap (origin? down across mask.height mask.width) = detector.grid mask := by
  have ordered : ((detector.grid canvas).filterMap (origin? down across mask.height mask.width)).Pairwise Precedes := by
    refine (detector.grid_ordered canvas).filterMap _ fun pixel pixel' before seed found seed' found' => ?_
    obtain ⟨-, rfl⟩ := origin?_eq_some.mp found
    obtain ⟨-, rfl⟩ := origin?_eq_some.mp found'
    simp only [Precedes] at before ⊢
    omega
  have alike : ((detector.grid canvas).filterMap (origin? down across mask.height mask.width)).Perm
      (detector.grid mask) := by
    rw [List.perm_ext_iff_of_nodup (nodup_of_ordered ordered) (nodup_of_ordered (detector.grid_ordered mask))]
    intro seed
    have onRows : detector.stride ∣ seed.1 + down ↔ detector.stride ∣ seed.1 := Nat.dvd_add_left rows
    have onColumns : detector.stride ∣ seed.2 + across ↔ detector.stride ∣ seed.2 := Nat.dvd_add_left columns
    have high := placed.rows
    have wide := placed.columns
    simp only [List.mem_filterMap, origin?_eq_some, mem_grid]
    constructor
    · rintro ⟨pixel, ⟨⟨-, row_tick⟩, -, column_tick⟩, ⟨row_lt, column_lt⟩, rfl⟩
      exact ⟨⟨row_lt, onRows.mp row_tick⟩, column_lt, onColumns.mp column_tick⟩
    · rintro ⟨⟨row_lt, row_tick⟩, column_lt, column_tick⟩
      exact ⟨_, ⟨⟨by omega, onRows.mpr row_tick⟩, by omega, onColumns.mpr column_tick⟩,
        ⟨row_lt, column_lt⟩, rfl⟩
  refine alike.eq_of_pairwise (fun seed other _ _ before behind => ?_) ordered (detector.grid_ordered mask)
  simp only [Precedes] at before behind
  omega

/-- What is measured on the canvas are the moved boxes of the mask, each from its moved seed, in the same order. -/
theorem measurements_placed (detector : Detector) (placed : mask.Placed down across canvas)
    (rows : detector.stride ∣ down) (columns : detector.stride ∣ across) :
    detector.measurements canvas = (detector.measurements mask).map (Measurement.shift down across) := by
  have start : Scan.Placed down across ⟨mask, []⟩ ⟨canvas, []⟩ := ⟨placed, rfl⟩
  have scanned := (start.foldl_visit (detector.grid canvas)).measured
  rw [filterMap_origin?_grid detector placed rows columns] at scanned
  rw [measurements, measurements, scanned, List.map_reverse]

end Placed

end Detector

/-- On a larger canvas a mask is seen as by itself. When a canvas shows the mask, moved down and to the right by whole
steps of the seed grid, and is background everywhere else, the boxes found on it are the moved boxes of the mask, in
the same order; so that background around a mask is no different from its border. -/
theorem detect_placed (detector : Detector) {mask canvas : Mask} {down across : Nat} (inRange : canvas.InRange)
    (placed : mask.Placed (down * detector.stride) (across * detector.stride) canvas) :
    detector.detect canvas =
      (detector.detect mask).map (Blob.shift (down * detector.stride) (across * detector.stride)) := by
  have room : Room mask.height mask.width (down * detector.stride) (across * detector.stride) :=
    ⟨Nat.lt_of_le_of_lt placed.rows inRange.2, Nat.lt_of_le_of_lt placed.columns inRange.1⟩
  have measured := detector.measurements_placed placed (Nat.dvd_mul_left ..) (Nat.dvd_mul_left ..)
  -- the size test does not see the place of a box
  have wanted (boxes : List Blob) (down across : Int) :
      (boxes.map (Blob.shift down across)).filter detector.accepts =
        (boxes.filter detector.accepts).map (Blob.shift down across) := List.filter_map
  have moved : (detector.measurements canvas).map Measurement.blob =
      ((detector.measurements mask).map Measurement.blob).map
        (Blob.shift ↑(down * detector.stride) ↑(across * detector.stride)) := by
    rw [measured, List.map_map, List.map_map]
    exact List.map_congr_left fun measurement taken =>
      Measurement.blob_shift room (Detector.mem_measurements taken).within.1
  rw [← Int.natCast_mul, ← Int.natCast_mul, Detector.detect, moved, wanted, Detector.detect]
  exact Blob.foldl_merge_shift room (List.forall_mem_nil _)
    fun blob member => Detector.lies_of_measured (placed.inRange inRange) (List.mem_of_mem_filter member)

/-- A canvas around a picture that reaches two of its own borders. -/
def framed : Mask :=
  Drawing.picture 20 12 ([⟨0, 0, 1, 4⟩, ⟨1, 3, 2, 7⟩, ⟨3, 9, 4, 10⟩, ⟨6, 0, 6, 6⟩, ⟨3, 3, 6, 3⟩].map (Bounds.shift 2 6))

theorem detect_placed_framed :
    framed.InRange ∧ bridged.Placed (1 * Detector.fine.stride) (3 * Detector.fine.stride) framed ∧
    (Detector.fine.detect bridged).map Blob.bounds = [⟨0, 0, 6, 7⟩, ⟨3, 9, 4, 10⟩] ∧
    (Detector.fine.detect framed).map Blob.bounds = [⟨2, 6, 8, 13⟩, ⟨5, 15, 6, 16⟩] := by
  have placed : bridged.Placed (1 * Detector.fine.stride) (3 * Detector.fine.stride) framed :=
    .picture (by decide) (by decide) (by decide) (by decide) (by decide)
  have found : (Detector.fine.detect bridged).map Blob.bounds = [⟨0, 0, 6, 7⟩, ⟨3, 9, 4, 10⟩] := by decide +kernel
  have inRange : framed.InRange := Drawing.picture_inRange (by decide) (by decide) _
  refine ⟨inRange, placed, found, ?_⟩
  rw [detect_placed Detector.fine inRange placed]
  decide +kernel

end TouchTracking
