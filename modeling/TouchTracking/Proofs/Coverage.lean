import TouchTracking.Proofs.Grouping

/-! What a scan reaches. Whatever was cleared before, its box was measured, so that a seed in the foreground
is either covered by then or is measured now. No seed comes twice, and each lies in its own box: what
is measured there goes out of the mask with it. And as the grid leaves out no square of the smallest
side sought, every such square in the foreground meets a box. -/
namespace TouchTracking.Detector

open Raster (Mask Precedes)

def seedOf (measurement : Measurement) : Nat × Nat := (measurement.row, measurement.column)

theorem measure_covers_seed {mask : Mask} {row column : Nat} (shown : mask.isForeground row column = true) :
    (measure mask row column).bounds.Covers row column := by
  obtain ⟨crossing, bounds⟩ := measure_crossing shown
  rw [bounds]
  exact crossing.covers_seed

def cleared (mask : Mask) (measured : List Measurement) : Mask :=
  measured.foldl (fun mask measurement =>
    mask.erase measurement.bounds.top measurement.bounds.left measurement.bounds.bottom
      measurement.bounds.right) mask

theorem cleared_snoc (mask : Mask) (measured : List Measurement) (last : Measurement) :
    cleared mask (measured ++ [last]) =
      (cleared mask measured).erase last.bounds.top last.bounds.left last.bounds.bottom
        last.bounds.right := by
  rw [cleared, List.foldl_append]
  rfl

theorem isForeground_cleared (mask : Mask) (measured : List Measurement) (row column : Int) :
    (cleared mask measured).isForeground row column = true ↔ mask.isForeground row column = true ∧
      ∀ measurement ∈ measured, ¬ measurement.bounds.Covers row column := by
  induction measured generalizing mask with
  | nil => simp [cleared]
  | cons first measured ih =>
    change (cleared (mask.erase ..) measured).isForeground row column = true ↔ _
    rw [ih, Mask.isForeground_erase, List.forall_mem_cons, and_assoc]

/-- Each box is measured where the earlier ones are cleared, from a seed that is still there. -/
def InTurn (mask : Mask) (measured : List Measurement) : Prop :=
  ∀ before measurement after, measured = before ++ measurement :: after →
    (cleared mask before).isForeground measurement.row measurement.column = true ∧
      measurement = measure (cleared mask before) measurement.row measurement.column

theorem InTurn.snoc {mask : Mask} {measured : List Measurement} (inTurn : InTurn mask measured)
    {row column : Nat} (shown : (cleared mask measured).isForeground row column = true) :
    InTurn mask (measured ++ [measure (cleared mask measured) row column]) := by
  intro before measurement after split
  rcases List.eq_nil_or_concat after with rfl | ⟨after, last, rfl⟩
  · obtain ⟨rfl, same⟩ := List.append_inj' split rfl
    cases same
    exact ⟨shown, rfl⟩
  · rw [List.concat_eq_append, ← List.cons_append, ← List.append_assoc] at split
    exact inTurn before measurement after (List.append_inj' split rfl).1

/-- A scan that has visited some seeds: its mask is the given one without the boxes measured so far, their
seeds are among the visited ones, in the same order, and all visited ones in the foreground are covered. -/
structure Scan.Done (mask : Mask) (visited : List (Nat × Nat)) (scan : Scan) : Prop where
  rest : scan.mask = cleared mask scan.measured.reverse
  inTurn : InTurn mask scan.measured.reverse
  seeds : (scan.measured.reverse.map seedOf).Sublist visited
  covered : ∀ seed ∈ visited, mask.isForeground seed.1 seed.2 = true →
    ∃ measurement ∈ scan.measured, measurement.bounds.Covers seed.1 seed.2

namespace Scan.Done

variable {mask : Mask} {visited : List (Nat × Nat)} {scan : Scan}

theorem start (mask : Mask) : Done mask [] ⟨mask, []⟩ := by
  refine ⟨rfl, fun before measurement after split => ?_, .slnil, nofun⟩
  cases List.append_ne_nil_of_right_ne_nil before (List.cons_ne_nil measurement after) split.symm

theorem visit (done : scan.Done mask visited) (seed : Nat × Nat) :
    (scan.visit seed).Done mask (visited ++ [seed]) := by
  obtain ⟨rest, inTurn, seeds, covered⟩ := done
  unfold Scan.visit
  split
  next shown =>
    refine ⟨?_, ?_, ?_, fun other found lit => ?_⟩
    · rw [List.reverse_cons, cleared_snoc, ← rest]
    · rw [List.reverse_cons, rest]
      exact inTurn.snoc (rest ▸ shown)
    · rw [List.reverse_cons, List.map_append]
      exact seeds.append (.refl _)
    · rcases List.mem_append.mp found with earlier | now
      · obtain ⟨measurement, taken, inside⟩ := covered other earlier lit
        exact ⟨measurement, List.mem_cons_of_mem _ taken, inside⟩
      · rw [List.mem_singleton.mp now]
        exact ⟨_, List.mem_cons_self, measure_covers_seed shown⟩
  next gone =>
    refine ⟨rest, inTurn, seeds.trans (List.sublist_append_left ..), fun other found lit => ?_⟩
    rcases List.mem_append.mp found with earlier | now
    · exact covered other earlier lit
    · -- a seed of the foreground that is no longer there has been cleared with some box
      rw [List.mem_singleton.mp now] at lit ⊢
      rw [rest, isForeground_cleared] at gone
      by_contra missed
      exact gone ⟨lit, fun measurement taken inside =>
        missed ⟨measurement, List.mem_reverse.mp taken, inside⟩⟩

theorem foldl_visit (done : scan.Done mask visited) (seeds : List (Nat × Nat)) :
    (seeds.foldl Scan.visit scan).Done mask (visited ++ seeds) := by
  induction seeds generalizing visited scan with
  | nil => simpa using done
  | cons seed seeds ih =>
    rw [List.append_cons]
    exact ih (done.visit seed)

end Scan.Done

def square (detector : Detector) (top left : Int) : Bounds :=
  ⟨top, left, top + detector.minSize - 1, left + detector.minSize - 1⟩

variable (detector : Detector) (mask : Mask)

theorem inTurn_measurements : InTurn mask (detector.measurements mask) :=
  ((Scan.Done.start mask).foldl_visit (detector.grid mask)).inTurn

theorem seeds_sublist : ((detector.measurements mask).map seedOf).Sublist (detector.grid mask) :=
  ((Scan.Done.start mask).foldl_visit (detector.grid mask)).seeds

theorem grid_nodup : (detector.grid mask).Nodup := nodup_of_ordered (detector.grid_ordered mask)

variable {detector mask}

theorem exists_measurement {seed : Nat × Nat} (visited : seed ∈ detector.grid mask)
    (shown : mask.isForeground seed.1 seed.2 = true) :
    ∃ measurement ∈ detector.measurements mask, measurement.bounds.Covers seed.1 seed.2 := by
  obtain ⟨measurement, taken, inside⟩ :=
    ((Scan.Done.start mask).foldl_visit (detector.grid mask)).covered seed visited shown
  exact ⟨measurement, List.mem_reverse.mpr taken, inside⟩

/-- Clearing a measured box takes the seed out of the foreground. -/
theorem InTurn.seed_cleared {measured before after : List Measurement} {measurement : Measurement}
    (inTurn : InTurn mask measured) (split : measured = before ++ measurement :: after) :
    (cleared mask (before ++ [measurement])).isForeground measurement.row measurement.column = false := by
  obtain ⟨shown, made⟩ := inTurn before measurement after split
  have covered := measure_covers_seed shown
  rw [← made] at covered
  rw [Bool.eq_false_iff, Ne, isForeground_cleared]
  rintro ⟨-, clear⟩
  exact clear measurement (by simp) covered

theorem exists_seed_of_filled {top left : Int}
    (filled : ∀ row column, (detector.square top left).Covers row column →
      mask.isForeground row column = true) :
    ∃ seed ∈ detector.grid mask, (detector.square top left).Covers seed.1 seed.2 := by
  have wanted : detector.Wants (detector.square top left) := by
    have limits := detector.minSize_le_maxSize
    simp only [Wants, square]
    omega
  have positive := detector.one_le_minSize
  have first := Mask.inside_of_isForeground
    (filled top left (by simp only [Bounds.Covers, square]; omega))
  have last := Mask.inside_of_isForeground
    (filled (top + detector.minSize - 1) (left + detector.minSize - 1)
      (by simp only [Bounds.Covers, square]; omega))
  exact wanted.exists_seed ⟨first.1, first.2.2.1⟩ ⟨last.2.1, last.2.2.2⟩

end TouchTracking.Detector

namespace TouchTracking

open Raster (Mask)

/-- A scan is complete. Every pixel of the foreground on the grid is covered by a measured box, no pixel
is the seed of two of them, each is measured from a seed that is still there and goes with its box, and
every square of the smallest side sought, if all of it is in the foreground, meets a measured box. -/
theorem scan_complete (detector : Detector) (mask : Mask) :
    (∀ row column : Nat, mask.isForeground row column = true → detector.stride ∣ row →
      detector.stride ∣ column →
        ∃ measurement ∈ detector.measurements mask, measurement.bounds.Covers row column) ∧
    ((detector.measurements mask).map Detector.seedOf).Nodup ∧
    (∀ before measurement after, detector.measurements mask = before ++ measurement :: after →
      (Detector.cleared mask before).isForeground measurement.row measurement.column = true ∧
      measurement = Detector.measure (Detector.cleared mask before) measurement.row measurement.column ∧
      (Detector.cleared mask (before ++ [measurement])).isForeground measurement.row
        measurement.column = false) ∧
    ∀ top left, (∀ row column, (detector.square top left).Covers row column →
        mask.isForeground row column = true) →
      ∃ measurement ∈ detector.measurements mask, ∃ row column,
        (detector.square top left).Covers row column ∧ measurement.bounds.Covers row column := by
  have inTurn := detector.inTurn_measurements mask
  refine ⟨fun row column shown row_tick column_tick => ?_,
    (detector.grid_nodup mask).sublist (detector.seeds_sublist mask),
    fun before measurement after split => ?_, fun top left filled => ?_⟩
  · have inside := Mask.inside_of_isForeground shown
    have visited : (row, column) ∈ detector.grid mask :=
      (detector.mem_grid ..).mpr ⟨⟨by omega, row_tick⟩, by omega, column_tick⟩
    exact Detector.exists_measurement visited shown
  · obtain ⟨shown, made⟩ := inTurn _ _ _ split
    exact ⟨shown, made, inTurn.seed_cleared split⟩
  · obtain ⟨seed, visited, inside⟩ := Detector.exists_seed_of_filled filled
    obtain ⟨measurement, taken, covered⟩ :=
      Detector.exists_measurement visited (filled _ _ inside)
    exact ⟨measurement, taken, seed.1, seed.2, inside, covered⟩

/-- A pixel that was cleared before its turn, the second of four measured boxes, and a square of which two
pixels had been cleared with the first. -/
theorem scan_complete_bridged :
    let measured := Detector.fine.measurements bridged
    (∃ measurement ∈ measured, measurement.bounds.Covers 6 4) ∧
    (measured.map Detector.seedOf).Nodup ∧
    (Detector.cleared bridged [⟨0, 0, ⟨0, 0, 1, 4⟩⟩]).isForeground 2 4 = true ∧
    ⟨2, 4, ⟨1, 4, 2, 7⟩⟩ = Detector.measure (Detector.cleared bridged [⟨0, 0, ⟨0, 0, 1, 4⟩⟩]) 2 4 ∧
    (Detector.cleared bridged [⟨0, 0, ⟨0, 0, 1, 4⟩⟩, ⟨2, 4, ⟨1, 4, 2, 7⟩⟩]).isForeground 2 4 = false ∧
    ∃ measurement ∈ measured, ∃ row column,
      (Detector.fine.square 1 3).Covers row column ∧ measurement.bounds.Covers row column := by
  obtain ⟨reached, once, cleared, met⟩ := scan_complete Detector.fine bridged
  have split : Detector.fine.measurements bridged =
      [⟨0, 0, ⟨0, 0, 1, 4⟩⟩] ++ ⟨2, 4, ⟨1, 4, 2, 7⟩⟩ ::
        [⟨4, 10, ⟨3, 9, 4, 10⟩⟩, ⟨6, 0, ⟨2, 0, 6, 6⟩⟩] := by decide +kernel
  have filled (row column : Int) (inside : (Detector.fine.square 1 3).Covers row column) :
      bridged.isForeground row column = true := by
    simp only [Bounds.Covers, Detector.square, Detector.fine] at inside
    obtain ⟨rfl | rfl, rfl | rfl⟩ : (row = 1 ∨ row = 2) ∧ (column = 3 ∨ column = 4) := by omega
    all_goals decide +kernel
  obtain ⟨shown, made, gone⟩ := cleared _ _ _ split
  exact ⟨reached 6 4 (by decide +kernel) (by decide) (by decide), once, shown, made, gone, met 1 3 filled⟩

end TouchTracking
