import Mathlib.Data.List.Basic
import Mathlib.Data.List.Pairwise
import TouchTracking.Proofs.Probes

/-! Masks that show filled rectangles apart from each other. Each of them stands by itself, and clearing
one leaves a drawing of the others. -/
namespace TouchTracking

open Raster (Mask)

/-- No pixel in common and none next to each other along an edge; corners may touch. -/
def Bounds.Separate (bounds other : Bounds) : Prop :=
  ∀ row column row' column', bounds.Covers row column → other.Covers row' column' →
    2 ≤ (row - row').natAbs + (column - column').natAbs

theorem Bounds.Separate.symm {bounds other : Bounds} (separate : bounds.Separate other) :
    other.Separate bounds := by
  intro row column row' column' here there
  have far := separate row' column' row column there here
  omega

instance : Std.Symm Bounds.Separate := ⟨fun _ _ => Bounds.Separate.symm⟩

theorem Bounds.Separate.disjoint {bounds other : Bounds} (separate : bounds.Separate other)
    {row column : Int} (here : bounds.Covers row column) : ¬ other.Covers row column := by
  intro there
  have far := separate row column row column here there
  omega

/-- The steps along rows and columns from the one rectangle to the other. -/
def Bounds.gap (bounds other : Bounds) : Int :=
  max 0 (max (other.top - bounds.bottom) (bounds.top - other.bottom)) +
    max 0 (max (other.left - bounds.right) (bounds.left - other.right))

theorem Bounds.separate_of_gap {bounds other : Bounds} (gap : 2 ≤ bounds.gap other) :
    bounds.Separate other := by
  intro row column row' column' here there
  simp only [Bounds.gap, Bounds.Covers] at gap here there
  omega

theorem Bounds.Proper.covers_corner {bounds : Bounds} (proper : bounds.Proper) :
    bounds.Covers bounds.top bounds.left := by
  simp only [Bounds.Proper] at proper
  simp only [Bounds.Covers]
  omega

/-- The foreground of the mask is the union of the rectangles, which are separate. -/
structure Drawing (mask : Mask) (rects : List Bounds) : Prop where
  proper : ∀ bounds ∈ rects, bounds.Proper
  separate : rects.Pairwise Bounds.Separate
  foreground : ∀ row column, mask.isForeground row column = true ↔
    ∃ bounds ∈ rects, bounds.Covers row column

namespace Drawing

variable {mask : Mask} {rects : List Bounds}

theorem separate_of_ne (drawing : Drawing mask rects) {bounds other : Bounds}
    (member : bounds ∈ rects) (member' : other ∈ rects) (distinct : bounds ≠ other) :
    bounds.Separate other :=
  drawing.separate.forall member member' distinct

theorem unique (drawing : Drawing mask rects) {bounds other : Bounds} (member : bounds ∈ rects)
    (member' : other ∈ rects) {row column : Int} (here : bounds.Covers row column)
    (there : other.Covers row column) : bounds = other := by
  by_contra distinct
  exact (drawing.separate_of_ne member member' distinct).disjoint here there

theorem nodup (drawing : Drawing mask rects) : rects.Nodup := by
  refine drawing.separate.imp_of_mem fun member _ separate same => ?_
  subst same
  have corner := (drawing.proper _ member).covers_corner
  exact separate.disjoint corner corner

theorem background (drawing : Drawing mask rects) {bounds : Bounds} (member : bounds ∈ rects)
    {row column row' column' : Int} (inside : bounds.Covers row column)
    (outside : ¬ bounds.Covers row' column')
    (near : (row - row').natAbs + (column - column').natAbs ≤ 1) :
    mask.isForeground row' column' = false := by
  rw [Bool.eq_false_iff]
  intro shown
  obtain ⟨other, member', covered⟩ := (drawing.foreground ..).mp shown
  have distinct : bounds ≠ other := by
    rintro rfl
    exact outside covered
  have far := drawing.separate_of_ne member member' distinct _ _ _ _ inside covered
  omega

theorem isolated (drawing : Drawing mask rects) {bounds : Bounds} (member : bounds ∈ rects) :
    Detector.Isolated mask bounds := by
  obtain ⟨rows, columns⟩ := drawing.proper bounds member
  refine ⟨fun row column covered => (drawing.foreground ..).mpr ⟨bounds, member, covered⟩,
    fun column low high => ?_, fun column low high => ?_, fun row low high => ?_,
    fun row low high => ?_⟩
  · have inside : bounds.Covers bounds.top column := ⟨Int.le_refl _, rows, low, high⟩
    exact drawing.background member inside (fun above => by have := above.1; omega) (by omega)
  · have inside : bounds.Covers bounds.bottom column := ⟨rows, Int.le_refl _, low, high⟩
    exact drawing.background member inside (fun below => by have := below.2.1; omega) (by omega)
  · have inside : bounds.Covers row bounds.left := ⟨low, high, Int.le_refl _, columns⟩
    exact drawing.background member inside (fun before => by have := before.2.2.1; omega) (by omega)
  · have inside : bounds.Covers row bounds.right := ⟨low, high, columns, Int.le_refl _⟩
    exact drawing.background member inside (fun after => by have := after.2.2.2; omega) (by omega)

/-- Clearing one of the rectangles leaves a drawing of the others. -/
theorem erase (drawing : Drawing mask rects) {bounds : Bounds} (member : bounds ∈ rects) :
    Drawing (mask.erase bounds.top bounds.left bounds.bottom bounds.right)
      (rects.filter (· ≠ bounds)) where
  proper other remains := drawing.proper other (List.mem_of_mem_filter remains)
  separate := drawing.separate.filter _
  foreground row column := by
    rw [Mask.isForeground_erase, drawing.foreground]
    simp only [List.mem_filter, decide_eq_true_eq]
    constructor
    · rintro ⟨⟨other, member', covered⟩, outside⟩
      refine ⟨other, ⟨member', ?_⟩, covered⟩
      rintro rfl
      exact outside covered
    · rintro ⟨other, ⟨member', distinct⟩, covered⟩
      exact ⟨⟨other, member', covered⟩,
        (drawing.separate_of_ne member' member distinct).disjoint covered⟩

def picture (width height : Nat) (rects : List Bounds) : Mask :=
  rects.foldr (fun bounds mask => mask.shade bounds) (Mask.blank width height)

theorem size_picture (width height : Nat) (rects : List Bounds) :
    (picture width height rects).width = width ∧ (picture width height rects).height = height := by
  induction rects with
  | nil => exact ⟨rfl, rfl⟩
  | cons bounds rects ih =>
    rw [picture, List.foldr_cons, Mask.width_shade, Mask.height_shade]
    exact ih

theorem picture_inRange {width height : Nat} (narrow : width < 2 ^ 31) (low : height < 2 ^ 31)
    (rects : List Bounds) : (picture width height rects).InRange := by
  obtain ⟨wide, high⟩ := size_picture width height rects
  rw [Raster.Mask.InRange, wide, high]
  exact ⟨narrow, low⟩

theorem of_picture {width height : Nat} (narrow : width < 2 ^ 31) (low : height < 2 ^ 31) {rects : List Bounds}
    (proper : ∀ bounds ∈ rects, bounds.Proper)
    (inside : ∀ bounds ∈ rects, (0 ≤ bounds.top ∧ 0 ≤ bounds.left) ∧
      bounds.bottom < height ∧ bounds.right < width)
    (gaps : rects.Pairwise fun bounds other => 2 ≤ bounds.gap other) :
    Drawing (picture width height rects) rects where
  proper := proper
  separate := gaps.imp Bounds.separate_of_gap
  foreground row column := by
    clear proper gaps
    induction rects with
    | nil => simp [picture, Mask.isForeground_blank]
    | cons bounds rects ih =>
      obtain ⟨first, last⟩ := inside bounds List.mem_cons_self
      have size := size_picture width height rects
      have framed : bounds.Covers row column → 0 ≤ row ∧ row < (picture width height rects).height ∧
          0 ≤ column ∧ column < (picture width height rects).width := by
        rw [size.1, size.2]
        simp only [Bounds.Covers]
        omega
      have rest := ih fun other member => inside other (List.mem_cons_of_mem _ member)
      change ((picture width height rects).shade bounds).isForeground row column = true ↔ _
      rw [Mask.isForeground_shade _ (picture_inRange narrow low rects).addressable, rest, List.exists_mem_cons_iff,
        or_comm]
      exact or_congr_left (and_iff_right_of_imp framed)

end Drawing

end TouchTracking
