import Mathlib.Algebra.Group.Int.Defs
import Mathlib.Algebra.Group.Nat.Defs
import TouchTracking.Blob.Merge

/-! Boxes in words of 32 bits with a sign. A word differs from the number that it was worked out from by whole turns
of the range, so that the bounds of a box come back from its centre and its sides whatever is cut on the way. The
lengths of the sides and the centre are what the bounds say only for a rectangle whose sides are words as well. -/
namespace TouchTracking

/-- The number is one of 32 bits with a sign. -/
def Word32 (n : Int) : Prop := -2 ^ 31 ≤ n ∧ n < 2 ^ 31

instance (n : Int) : Decidable (Word32 n) := inferInstanceAs (Decidable (_ ∧ _))

theorem word32_signed32 (n : Int) : Word32 (signed32 n) :=
  ⟨Int.le_bmod (by decide), Int.bmod_lt (by decide)⟩

@[simp] theorem signed32_of_word {n : Int} (word : Word32 n) : signed32 n = n :=
  Int.bmod_eq_of_le word.1 word.2

/-- A word and the number that it stands for are whole turns apart. -/
theorem exists_turns (n : Int) : ∃ turns : Int, signed32 n = n + 2 ^ 32 * turns := by
  refine ⟨-((n + 2 ^ 31) / 2 ^ 32), ?_⟩
  have range : ((1 <<< 32 : Nat) : Int) = 2 ^ 32 := rfl
  rw [signed32, Int.bmod_def, range]
  split <;> omega

theorem signed32_congr {n m : Int} (turns : Int) (apart : n = m + 2 ^ 32 * turns) : signed32 n = signed32 m := by
  obtain ⟨here, first⟩ := exists_turns n
  obtain ⟨there, last⟩ := exists_turns m
  have low := word32_signed32 n
  have high := word32_signed32 m
  simp only [Word32] at low high
  omega

structure Blob.Held (blob : Blob) : Prop where
  row : Word32 blob.centerRow
  column : Word32 blob.centerColumn
  width : Word32 blob.width
  height : Word32 blob.height

/-- A rectangle with at least one pixel, whose bounds and the lengths of whose sides are words. -/
structure Bounds.InRange (bounds : Bounds) : Prop where
  rows : bounds.top ≤ bounds.bottom
  columns : bounds.left ≤ bounds.right
  top : -2 ^ 31 ≤ bounds.top
  left : -2 ^ 31 ≤ bounds.left
  bottom : bounds.bottom < 2 ^ 31
  right : bounds.right < 2 ^ 31
  high : bounds.bottom - bounds.top + 1 < 2 ^ 31
  wide : bounds.right - bounds.left + 1 < 2 ^ 31

/-- Centre, sides and bounds of the box are words without being cut. -/
structure Blob.InRange (blob : Blob) : Prop extends blob.Held where
  top : Word32 (blob.centerRow - blob.height.tdiv 2)
  left : Word32 (blob.centerColumn - blob.width.tdiv 2)
  bottom : Word32 (blob.centerRow - blob.height.tdiv 2 + blob.height - 1)
  right : Word32 (blob.centerColumn - blob.width.tdiv 2 + blob.width - 1)

/-- Around the same centre, either side one pixel less but not below zero, worked out without a limit. -/
def Blob.lessened (blob : Blob) : Blob :=
  ⟨blob.centerRow, blob.centerColumn, max (blob.width - 1) 0, max (blob.height - 1) 0⟩

/-- A pixel can be taken off both sides within 32 bits. -/
def Blob.Shrinkable (blob : Blob) : Prop :=
  (-2 ^ 31 < blob.width ∧ blob.width < 2 ^ 31) ∧ -2 ^ 31 < blob.height ∧ blob.height < 2 ^ 31

instance (blob : Blob) : Decidable blob.Held :=
  decidable_of_iff (Word32 blob.centerRow ∧ Word32 blob.centerColumn ∧ Word32 blob.width ∧ Word32 blob.height)
    ⟨fun ⟨row, column, width, height⟩ => ⟨row, column, width, height⟩,
      fun ⟨row, column, width, height⟩ => ⟨row, column, width, height⟩⟩

instance (blob : Blob) : Decidable blob.InRange :=
  decidable_of_iff (blob.Held ∧ Word32 (blob.centerRow - blob.height.tdiv 2) ∧
      Word32 (blob.centerColumn - blob.width.tdiv 2) ∧
      Word32 (blob.centerRow - blob.height.tdiv 2 + blob.height - 1) ∧
      Word32 (blob.centerColumn - blob.width.tdiv 2 + blob.width - 1))
    ⟨fun ⟨held, top, left, bottom, right⟩ => ⟨held, top, left, bottom, right⟩,
      fun ⟨held, top, left, bottom, right⟩ => ⟨held, top, left, bottom, right⟩⟩

instance (blob : Blob) : Decidable blob.Shrinkable := inferInstanceAs (Decidable ((_ ∧ _) ∧ _ ∧ _))

namespace Blob

theorem half_of_nonneg {side : Int} (nonneg : 0 ≤ side) : side.tdiv 2 = side / 2 :=
  Int.tdiv_eq_ediv_of_nonneg nonneg

theorem held_ofBounds (bounds : Bounds) : (ofBounds bounds).Held :=
  ⟨word32_signed32 _, word32_signed32 _, word32_signed32 _, word32_signed32 _⟩

theorem held_hull (blob other : Blob) : (blob.hull other).Held := held_ofBounds _

theorem Held.shrunk {blob : Blob} (held : blob.Held) : blob.shrunk.Held := by
  obtain ⟨row, column, -, -⟩ := held
  have width := word32_signed32 (blob.width - 1)
  have height := word32_signed32 (blob.height - 1)
  refine ⟨row, column, ?_, ?_⟩ <;> simp only [Word32, Blob.shrunk] at * <;> omega

/-- Whatever is cut, the bounds come back as the words of the bounds. -/
theorem bounds_ofBounds (bounds : Bounds) :
    (ofBounds bounds).bounds =
      ⟨signed32 bounds.top, signed32 bounds.left, signed32 bounds.bottom, signed32 bounds.right⟩ := by
  -- from the first bound to the centre and back, and on over the side to the last one
  have first (start half : Int) : signed32 (signed32 (start + half) - half) = signed32 start := by
    obtain ⟨turns, apart⟩ := exists_turns (start + half)
    exact signed32_congr turns (by omega)
  have last (start stop : Int) : signed32 (signed32 start + signed32 (stop - start + 1) - 1) = signed32 stop := by
    obtain ⟨turns, apart⟩ := exists_turns start
    obtain ⟨turns', apart'⟩ := exists_turns (stop - start + 1)
    exact signed32_congr (turns + turns') (by omega)
  simp only [Blob.bounds, bottom, right, top, left, ofBounds, first, last]

theorem word32_bounds (blob : Blob) :
    (Word32 blob.top ∧ Word32 blob.left) ∧ Word32 blob.bottom ∧ Word32 blob.right :=
  ⟨⟨word32_signed32 _, word32_signed32 _⟩, word32_signed32 _, word32_signed32 _⟩

/-- A hull has the bounds of the enclosing rectangle, even where its sides are too long for a word. -/
@[simp] theorem bounds_hull (blob other : Blob) :
    (blob.hull other).bounds = ⟨min blob.top other.top, min blob.left other.left,
      max blob.bottom other.bottom, max blob.right other.right⟩ := by
  obtain ⟨⟨top, left⟩, bottom, right⟩ := word32_bounds blob
  obtain ⟨⟨top', left'⟩, bottom', right'⟩ := word32_bounds other
  rw [hull, bounds_ofBounds, Bounds.mk.injEq]
  refine ⟨signed32_of_word ?_, signed32_of_word ?_, signed32_of_word ?_, signed32_of_word ?_⟩ <;>
    simp only [Word32] at * <;> omega

end Blob

namespace Bounds.InRange

variable {bounds : Bounds}

/-- Nothing is cut when a box is made of a rectangle in range. -/
theorem ofBounds_eq (inRange : bounds.InRange) :
    Blob.ofBounds bounds = ⟨bounds.top + (bounds.bottom - bounds.top + 1) / 2,
      bounds.left + (bounds.right - bounds.left + 1) / 2, bounds.right - bounds.left + 1,
      bounds.bottom - bounds.top + 1⟩ := by
  obtain ⟨rows, columns, top, left, bottom, right, high, wide⟩ := inRange
  have width : signed32 (bounds.right - bounds.left + 1) = bounds.right - bounds.left + 1 :=
    signed32_of_word ⟨by omega, wide⟩
  have height : signed32 (bounds.bottom - bounds.top + 1) = bounds.bottom - bounds.top + 1 :=
    signed32_of_word ⟨by omega, high⟩
  simp only [Blob.ofBounds, width, height, Blob.mk.injEq, and_true]
  rw [Blob.half_of_nonneg (by omega), Blob.half_of_nonneg (by omega)]
  exact ⟨signed32_of_word ⟨by omega, by omega⟩, signed32_of_word ⟨by omega, by omega⟩⟩

theorem bounds_ofBounds (inRange : bounds.InRange) : (Blob.ofBounds bounds).bounds = bounds := by
  obtain ⟨rows, columns, top, left, bottom, right, -, -⟩ := inRange
  rw [Blob.bounds_ofBounds, signed32_of_word ⟨top, by omega⟩, signed32_of_word ⟨left, by omega⟩,
    signed32_of_word ⟨by omega, bottom⟩, signed32_of_word ⟨by omega, right⟩]

end Bounds.InRange

namespace Blob

variable {blob : Blob}

/-- Centre and sides of a box of words are what its bounds say when these are in range. -/
theorem Held.fields (held : blob.Held) (inRange : blob.bounds.InRange) :
    (blob.centerRow = blob.top + blob.height / 2 ∧ blob.centerColumn = blob.left + blob.width / 2) ∧
      blob.width = blob.right - blob.left + 1 ∧ blob.height = blob.bottom - blob.top + 1 := by
  obtain ⟨rows, columns, top, left, bottom, right, high, wide⟩ := inRange
  obtain ⟨row, column, width, height⟩ := held
  obtain ⟨_, top_eq⟩ := exists_turns (blob.centerRow - blob.height.tdiv 2)
  obtain ⟨_, left_eq⟩ := exists_turns (blob.centerColumn - blob.width.tdiv 2)
  obtain ⟨_, bottom_eq⟩ := exists_turns (blob.top + blob.height - 1)
  obtain ⟨_, right_eq⟩ := exists_turns (blob.left + blob.width - 1)
  change blob.top = _ at top_eq
  change blob.left = _ at left_eq
  change blob.bottom = _ at bottom_eq
  change blob.right = _ at right_eq
  simp only [Word32, bounds] at *
  -- a side and the distance of its ends are words that are whole turns apart
  have high_eq : blob.height = blob.bottom - blob.top + 1 := by omega
  have wide_eq : blob.width = blob.right - blob.left + 1 := by omega
  rw [half_of_nonneg (by omega)] at top_eq left_eq
  omega

theorem Held.eq_ofBounds (held : blob.Held) (inRange : blob.bounds.InRange) : ofBounds blob.bounds = blob := by
  obtain ⟨⟨row, column⟩, width, height⟩ := held.fields inRange
  rw [inRange.ofBounds_eq]
  simp only [bounds]
  rw [← width, ← height, ← row, ← column]

/-- Nothing is cut when a box of words is worked out whose bounds are in range. -/
theorem Held.exact (held : blob.Held) (inRange : blob.bounds.InRange) : blob.InRange ∧ blob.Shrinkable := by
  obtain ⟨⟨row, column⟩, width, height⟩ := held.fields inRange
  obtain ⟨rows, columns, top, left, bottom, right, high, wide⟩ := inRange
  simp only [bounds] at *
  have half_width : blob.width.tdiv 2 = blob.width / 2 := half_of_nonneg (by omega)
  have half_height : blob.height.tdiv 2 = blob.height / 2 := half_of_nonneg (by omega)
  refine ⟨⟨held, ?_, ?_, ?_, ?_⟩, ?_⟩ <;> simp only [Word32, Shrinkable, half_width, half_height] <;> omega

/-- The bounds of a box in range are what they are without a limit. -/
theorem InRange.bounds_eq (inRange : blob.InRange) :
    blob.bounds = ⟨blob.centerRow - blob.height.tdiv 2, blob.centerColumn - blob.width.tdiv 2,
      blob.centerRow - blob.height.tdiv 2 + blob.height - 1,
      blob.centerColumn - blob.width.tdiv 2 + blob.width - 1⟩ := by
  simp only [bounds, Blob.bottom, Blob.right, Blob.top, Blob.left, signed32_of_word inRange.top,
    signed32_of_word inRange.left, signed32_of_word inRange.bottom, signed32_of_word inRange.right]

theorem isEmpty_eq_false_iff (blob : Blob) : blob.isEmpty = false ↔ 0 < blob.width ∧ 0 < blob.height := by
  simp [Blob.isEmpty]

theorem Shrinkable.shrunk_eq (shrinkable : blob.Shrinkable) : blob.shrunk = blob.lessened := by
  obtain ⟨⟨wide, wide'⟩, high, high'⟩ := shrinkable
  have width : signed32 (blob.width - 1) = blob.width - 1 := signed32_of_word ⟨by omega, by omega⟩
  have height : signed32 (blob.height - 1) = blob.height - 1 := signed32_of_word ⟨by omega, by omega⟩
  rw [shrunk, width, height, lessened]

theorem sides_of_shrunk (shrinkable : blob.Shrinkable) (wide : blob.shrunk.isEmpty = false) :
    blob.shrunk.width = blob.width - 1 ∧ blob.shrunk.height = blob.height - 1 := by
  rw [shrinkable.shrunk_eq, isEmpty_eq_false_iff] at wide
  rw [shrinkable.shrunk_eq]
  simp only [lessened] at wide ⊢
  omega

theorem InRange.shrunk (inRange : blob.InRange) (shrinkable : blob.Shrinkable)
    (wide : blob.shrunk.isEmpty = false) : blob.shrunk.InRange := by
  obtain ⟨across, down⟩ := (isEmpty_eq_false_iff _).mp wide
  obtain ⟨width, height⟩ := sides_of_shrunk shrinkable wide
  have row_kept : blob.shrunk.centerRow = blob.centerRow := rfl
  have column_kept : blob.shrunk.centerColumn = blob.centerColumn := rfl
  obtain ⟨held, top, left, bottom, right⟩ := inRange
  rw [half_of_nonneg (by omega)] at top left bottom right
  refine ⟨held.shrunk, ?_, ?_, ?_, ?_⟩ <;> rw [half_of_nonneg (by omega)] <;>
    simp only [Word32, width, height, row_kept, column_kept] at * <;> omega

theorem Shrinkable.shrunk (shrinkable : blob.Shrinkable) : blob.shrunk.Shrinkable := by
  rw [shrinkable.shrunk_eq]
  simp only [Shrinkable, lessened] at shrinkable ⊢
  omega

end Blob

end TouchTracking
