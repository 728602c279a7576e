import TouchTracking.Proofs.Words

/-! Which pixels a box covers, and when two boxes overlap. The half of a side is rounded toward zero,
which is the floor for every box that has a pixel: such a box has two positive sides. -/
namespace TouchTracking

def Bounds.Covers (bounds : Bounds) (row column : Int) : Prop :=
  bounds.top ≤ row ∧ row ≤ bounds.bottom ∧ bounds.left ≤ column ∧ column ≤ bounds.right

instance (bounds : Bounds) (row column : Int) : Decidable (bounds.Covers row column) :=
  inferInstanceAs (Decidable (_ ∧ _ ∧ _ ∧ _))

def Bounds.Proper (bounds : Bounds) : Prop :=
  bounds.top ≤ bounds.bottom ∧ bounds.left ≤ bounds.right

instance (bounds : Bounds) : Decidable bounds.Proper := inferInstanceAs (Decidable (_ ∧ _))

/-- The one rectangle reaches beyond the other on no side. -/
structure Bounds.Encloses (bounds other : Bounds) : Prop where
  top : bounds.top ≤ other.top
  left : bounds.left ≤ other.left
  bottom : other.bottom ≤ bounds.bottom
  right : other.right ≤ bounds.right

instance (bounds other : Bounds) : Decidable (bounds.Encloses other) :=
  decidable_of_iff (bounds.top ≤ other.top ∧ bounds.left ≤ other.left ∧ other.bottom ≤ bounds.bottom ∧
      other.right ≤ bounds.right)
    ⟨fun ⟨top, left, bottom, right⟩ => ⟨top, left, bottom, right⟩,
      fun ⟨top, left, bottom, right⟩ => ⟨top, left, bottom, right⟩⟩

namespace Blob

theorem contains_iff (blob : Blob) (row column : Int) :
    blob.contains row column = true ↔ blob.bounds.Covers row column := by
  simp [contains, Bounds.Covers, bounds, and_assoc]

theorem overlaps_comm (blob other : Blob) : blob.overlaps other = other.overlaps blob :=
  Bool.or_comm _ _

/-- Shrinking takes pixels away and adds none, for even and for odd sides. -/
theorem contains_of_shrunk {blob : Blob} (inRange : blob.InRange) (shrinkable : blob.Shrinkable)
    (wide : blob.shrunk.isEmpty = false) {row column : Int} (inside : blob.shrunk.contains row column = true) :
    blob.contains row column = true := by
  rw [contains_iff, (inRange.shrunk shrinkable wide).bounds_eq] at inside
  rw [contains_iff, inRange.bounds_eq]
  obtain ⟨across, down⟩ := (isEmpty_eq_false_iff _).mp wide
  obtain ⟨width, height⟩ := sides_of_shrunk shrinkable wide
  have row_kept : blob.shrunk.centerRow = blob.centerRow := rfl
  have column_kept : blob.shrunk.centerColumn = blob.centerColumn := rfl
  simp only [Bounds.Covers, width, height, row_kept, column_kept] at inside ⊢
  rw [half_of_nonneg (by omega), half_of_nonneg (by omega)] at inside
  rw [half_of_nonneg (by omega), half_of_nonneg (by omega)]
  omega

theorem not_overlaps_shrunk {blob other : Blob} (inRange : blob.InRange) (inRange' : other.InRange)
    (shrinkable : blob.Shrinkable) (shrinkable' : other.Shrinkable) (wide : blob.shrunk.isEmpty = false)
    (wide' : other.shrunk.isEmpty = false) (apart : blob.overlaps other = false) :
    blob.shrunk.overlaps other.shrunk = false := by
  rw [Bool.eq_false_iff] at apart ⊢
  intro meet
  apply apart
  simp only [overlaps, Bool.or_eq_true] at meet ⊢
  exact meet.imp (contains_of_shrunk inRange shrinkable wide) (contains_of_shrunk inRange' shrinkable' wide')

theorem center_covered {bounds : Bounds} (inRange : bounds.InRange) :
    bounds.Covers (ofBounds bounds).centerRow (ofBounds bounds).centerColumn := by
  rw [inRange.ofBounds_eq]
  have rows := inRange.rows
  have columns := inRange.columns
  simp only [Bounds.Covers]
  omega

theorem shared_of_overlaps {bounds other : Bounds} (inRange : bounds.InRange) (inRange' : other.InRange)
    (meet : (ofBounds bounds).overlaps (ofBounds other) = true) :
    ∃ row column, bounds.Covers row column ∧ other.Covers row column := by
  simp only [overlaps, Bool.or_eq_true, contains_iff, inRange.bounds_ofBounds, inRange'.bounds_ofBounds] at meet
  rcases meet with inside | inside
  · exact ⟨_, _, inside, center_covered inRange'⟩
  · exact ⟨_, _, center_covered inRange, inside⟩

theorem merge_of_clear {kept : List Blob} {blob : Blob}
    (clear : ∀ other ∈ kept, other.overlaps blob = false) : merge kept blob = kept ++ [blob] := by
  have unreached : kept.findIdx? (·.overlaps blob) = none := by
    rw [List.findIdx?_eq_none_iff]
    exact clear
  have still : Growth.run ⟨kept, blob, none⟩ = ⟨kept, blob, none⟩ := by
    rw [Growth.run.eq_def]
    simp only [unreached]
  rw [merge, still]

theorem foldl_merge_of_clear {kept blobs : List Blob}
    (clear : (kept ++ blobs).Pairwise fun blob other => blob.overlaps other = false) :
    blobs.foldl merge kept = kept ++ blobs := by
  induction blobs generalizing kept with
  | nil => exact (List.append_nil kept).symm
  | cons blob blobs ih =>
    have first : ∀ other ∈ kept, other.overlaps blob = false := fun other member =>
      (List.pairwise_append.mp clear).2.2 other member blob List.mem_cons_self
    have grouped : kept ++ blob :: blobs = kept ++ [blob] ++ blobs := List.append_cons ..
    rw [List.foldl_cons, merge_of_clear first, ih (grouped ▸ clear), grouped]

end Blob
end TouchTracking
