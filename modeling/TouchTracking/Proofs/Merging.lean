import Mathlib.Data.List.InsertIdx
import Mathlib.Data.List.Pairwise
import TouchTracking.Proofs.Boxes

/-! What collecting boxes keeps, when a new box is joined with the kept boxes that it overlaps. The hull
grows until it overlaps no box that is left, and only then does it take its place among them, so that
kept boxes that do not overlap are followed by kept boxes that do not overlap. -/
namespace TouchTracking.Blob

/-- No box overlaps one that stands later. -/
def Apart (blobs : List Blob) : Prop := blobs.Pairwise fun blob other => blob.overlaps other = false

instance (blobs : List Blob) : Decidable (Apart blobs) := inferInstanceAs (Decidable (blobs.Pairwise _))

namespace Growth

/-- What every absorption of an overlapping box keeps, the whole growing keeps. -/
theorem run_keeps (property : Growth → Prop)
    (absorbed : ∀ growth index, (inside : index < growth.kept.length) →
      growth.kept[index].overlaps growth.hull = true → property growth →
      property (growth.absorb index growth.kept[index]))
    {growth : Growth} (start : property growth) : property growth.run := by
  fun_induction Growth.run growth with
  | case1 => exact start
  | case2 growth index found inside ih =>
    obtain ⟨_, meets, _⟩ := List.findIdx?_eq_some_iff_getElem.mp found
    exact ih (absorbed growth index inside meets start)
  | case3 => exact start

theorem run_clear (growth : Growth) :
    ∀ other ∈ growth.run.kept, other.overlaps growth.run.hull = false := by
  fun_induction Growth.run growth with
  | case1 growth clear => exact List.findIdx?_eq_none_iff.mp clear
  | case2 _ _ _ _ ih => exact ih
  | case3 growth index found outside =>
    obtain ⟨inside, _⟩ := List.findIdx?_eq_some_iff_getElem.mp found
    exact absurd inside outside

theorem run_sublist (growth : Growth) : growth.run.kept.Sublist growth.kept :=
  run_keeps (fun later => later.kept.Sublist growth.kept)
    (fun _ _ _ _ stays => (List.eraseIdx_sublist ..).trans stays) (List.Sublist.refl _)

/-- The place that waits for the hull is one in the list that is left, its end included. -/
def SlotInside (growth : Growth) : Prop := ∀ slot, growth.slot = some slot → slot ≤ growth.kept.length

theorem slotInside_run {growth : Growth} (start : growth.SlotInside) : growth.run.SlotInside := by
  refine run_keeps SlotInside (fun growth index inside _ _ slot taken => ?_) start
  have shorter := List.length_eraseIdx_of_lt inside
  have earliest : slot ≤ index := by
    simp only [absorb, Option.some.injEq] at taken
    subst taken
    split
    · exact Nat.le_refl _
    · exact Nat.min_le_right ..
  change slot ≤ (growth.kept.eraseIdx index).length
  omega

end Growth

/-- The new list holds the grown hull and the boxes that it did not reach. -/
theorem merge_perm (kept : List Blob) (blob : Blob) :
    (merge kept blob).Perm
      ((Growth.run ⟨kept, blob, none⟩).hull :: (Growth.run ⟨kept, blob, none⟩).kept) := by
  have start : Growth.SlotInside ⟨kept, blob, none⟩ := fun _ taken => nomatch taken
  have room := Growth.slotInside_run start
  simp only [merge]
  split
  next => exact List.perm_append_singleton ..
  next slot taken => exact List.perm_insertIdx _ _ (room slot taken)

theorem merge_apart {kept : List Blob} (apart : Apart kept) (blob : Blob) :
    Apart (merge kept blob) := by
  rw [Apart, (merge_perm kept blob).pairwise_iff fun clear => overlaps_comm .. ▸ clear]
  refine List.pairwise_cons.mpr ⟨fun other left => ?_, apart.sublist (Growth.run_sublist _)⟩
  rw [overlaps_comm]
  exact Growth.run_clear _ other left

/-- What two boxes and then their hull have in common, all collected boxes have. -/
theorem merge_keeps (property : Blob → Prop)
    (closed : ∀ blob other, property blob → property other → property (blob.hull other))
    {kept : List Blob} {blob : Blob} (known : ∀ other ∈ kept, property other)
    (added : property blob) : ∀ other ∈ merge kept blob, property other := by
  have grown := Growth.run_keeps
    (fun growth => property growth.hull ∧ ∀ other ∈ growth.kept, property other)
    (fun growth index inside _ held => ⟨closed _ _ held.1 (held.2 _ (List.getElem_mem inside)),
      fun other left => held.2 other (List.mem_of_mem_eraseIdx left)⟩)
    (show property (Growth.mk kept blob none).hull ∧ _ from ⟨added, known⟩)
  intro other member
  rcases List.mem_cons.mp ((merge_perm kept blob).mem_iff.mp member) with rfl | left
  · exact grown.1
  · exact grown.2 other left

theorem foldl_merge_apart {kept : List Blob} (apart : Apart kept) (blobs : List Blob) :
    Apart (blobs.foldl merge kept) := by
  induction blobs generalizing kept with
  | nil => exact apart
  | cons blob blobs ih => exact ih (merge_apart apart blob)

theorem foldl_merge_keeps (property : Blob → Prop)
    (closed : ∀ blob other, property blob → property other → property (blob.hull other))
    {kept blobs : List Blob} (known : ∀ other ∈ kept, property other)
    (added : ∀ blob ∈ blobs, property blob) : ∀ other ∈ blobs.foldl merge kept, property other := by
  induction blobs generalizing kept with
  | nil => exact known
  | cons blob blobs ih =>
    exact ih (merge_keeps property closed known (added blob List.mem_cons_self))
      fun later member => added later (List.mem_cons_of_mem _ member)

end TouchTracking.Blob
