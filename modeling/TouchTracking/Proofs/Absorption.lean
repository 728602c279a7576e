import TouchTracking.Proofs.Grouping

/-! Where a new box goes among the kept ones. The growing hull takes in one kept box after the other, each time the
first that it overlaps, and notes the place of each, in a list that is shorter by every box taken in before. Before the
earliest of these boxes none is ever taken out, so it is noted under the place that it has had from the beginning, and
no other is noted under a smaller one: the least of the noted places is that of the earliest box. -/
namespace TouchTracking.Blob

structure Inside (frame : Bounds) (blob : Blob) : Prop where
  held : blob.Held
  rows : blob.top ≤ blob.bottom
  columns : blob.left ≤ blob.right
  encloses : frame.Encloses blob.bounds

theorem InRange.inside {blob : Blob} {frame : Bounds} (inRange : blob.InRange) (filled : blob.isEmpty = false)
    (encloses : frame.Encloses blob.bounds) : blob.Inside frame := by
  obtain ⟨wide, high⟩ := (isEmpty_eq_false_iff _).mp filled
  have bounds := inRange.bounds_eq
  simp only [Blob.bounds, Bounds.mk.injEq] at bounds
  refine ⟨inRange.toHeld, ?_, ?_, encloses⟩ <;> omega

section Frame

variable {frame : Bounds} (inRange : frame.InRange) {blob other : Blob}

theorem Inside.hull (inside : blob.Inside frame) (inside' : other.Inside frame) : (blob.hull other).Inside frame := by
  obtain ⟨held, rows, columns, top, left, bottom, right⟩ := inside
  obtain ⟨-, -, -, top', left', bottom', right'⟩ := inside'
  have joined := bounds_hull blob other
  simp only [bounds, Bounds.mk.injEq] at *
  refine ⟨held_hull blob other, ?_, ?_, ⟨?_, ?_, ?_, ?_⟩⟩
  all_goals
    try simp only [bounds]
    omega

include inRange

theorem Inside.bounds_inRange (inside : blob.Inside frame) : blob.bounds.InRange := by
  obtain ⟨-, rows, columns, top, left, bottom, right⟩ := inside
  obtain ⟨-, -, top', left', bottom', right', high, wide⟩ := inRange
  simp only [bounds] at *
  constructor <;> simp only <;> omega

theorem Inside.filled (inside : blob.Inside frame) : blob.isEmpty = false := by
  obtain ⟨-, width, height⟩ := inside.held.fields (inside.bounds_inRange inRange)
  have rows := inside.rows
  have columns := inside.columns
  rw [isEmpty_eq_false_iff]
  omega

theorem Inside.overlaps_self (inside : blob.Inside frame) : blob.overlaps blob = true := by
  have inRange' := inside.bounds_inRange inRange
  have center := center_covered inRange'
  rw [inside.held.eq_ofBounds inRange'] at center
  simp [overlaps, contains_iff, center]

theorem Apart.nodup {kept : List Blob} (apart : Apart kept) (inside : ∀ other ∈ kept, other.Inside frame) :
    kept.Nodup := by
  apply apart.imp_of_mem
  rintro blob other member - clear rfl
  rw [(inside blob member).overlaps_self inRange] at clear
  cases clear

end Frame

namespace Growth

/-- The rounds of the growing, from the first to the end: the boxes taken in, in the order of taking. -/
inductive Rounds : Growth → List Blob → Growth → Prop
  | done {growth : Growth} (clear : ∀ other ∈ growth.kept, other.overlaps growth.hull = false) :
      Rounds growth [] growth
  | round {growth final : Growth} {absorbed : List Blob} {index : Nat} (inside : index < growth.kept.length)
      (meets : growth.kept[index].overlaps growth.hull = true)
      (first : ∀ earlier, (before : earlier < index) → growth.kept[earlier].overlaps growth.hull = false)
      (later : Rounds (growth.absorb index growth.kept[index]) absorbed final) :
      Rounds growth (growth.kept[index] :: absorbed) final

theorem exists_rounds (growth : Growth) : ∃ absorbed, growth.Rounds absorbed growth.run := by
  fun_induction Growth.run growth with
  | case1 growth clear => exact ⟨[], .done (List.findIdx?_eq_none_iff.mp clear)⟩
  | case2 growth index found inside ih =>
    obtain ⟨_, meets, first⟩ := List.findIdx?_eq_some_iff_getElem.mp found
    obtain ⟨absorbed, later⟩ := ih
    exact ⟨_, .round inside meets (fun earlier before => by simpa using first earlier before) later⟩
  | case3 growth index found outside =>
    obtain ⟨inside, _⟩ := List.findIdx?_eq_some_iff_getElem.mp found
    exact absurd inside outside

/-- The growing in the middle, when the given boxes have been taken in: the others are left in their order, the noted
place is that of the earliest of these boxes, and the hull is the smallest rectangle around them and the new one. -/
structure Reached (kept : List Blob) (blob : Blob) (taken : List Blob) (growth : Growth) : Prop where
  parted : (taken ++ growth.kept).Perm kept
  left : growth.kept = kept.filter (· ∉ taken)
  place : growth.slot.getD kept.length = kept.findIdx (· ∈ taken)
  spans : growth.hull.bounds.Spans ((blob :: taken).map Blob.bounds)

theorem reached_start (kept : List Blob) (blob : Blob) : Reached kept blob [] ⟨kept, blob, none⟩ where
  parted := .refl _
  left := by simp
  place := by simp [List.findIdx_eq_length_of_false]
  spans := .singleton _

/-- A box counts for the place among the boxes that are left, unless an earlier one has been taken out: then it is
behind that one in the whole list. -/
theorem findIdx_taken {kept taken : List Blob} (distinct : kept.Nodup) {index : Nat} {box : Blob}
    (found : (kept.filter (· ∉ taken))[index]? = some box) :
    kept.findIdx (· ∈ taken ++ [box]) = min (kept.findIdx (· ∈ taken)) index := by
  induction kept generalizing index with
  | nil => simp at found
  | cons head kept ih =>
    obtain ⟨new, distinct⟩ := List.nodup_cons.mp distinct
    by_cases old : head ∈ taken
    -- Whatever index the box has, no place is before the first one.
    · simp [List.findIdx_cons, old]
    · rw [List.filter_cons_of_pos (by simpa using old)] at found
      cases index with
      | zero =>
        obtain rfl : head = box := by simpa using found
        simp [List.findIdx_cons]
      | succ index =>
        have later : box ∈ kept := (List.mem_filter.mp (List.mem_of_getElem? found)).1
        have apart : head ≠ box := by
          rintro rfl
          exact new later
        simp only [List.findIdx_cons, List.mem_append, List.mem_singleton, old, apart, or_self, decide_false,
          cond_false, Nat.add_min_add_right]
        simpa using ih distinct found

theorem filter_taken {kept taken : List Blob} (distinct : kept.Nodup) {index : Nat}
    (inside : index < (kept.filter (· ∉ taken)).length) :
    (kept.filter (· ∉ taken)).eraseIdx index =
      kept.filter (· ∉ taken ++ [(kept.filter (· ∉ taken))[index]]) := by
  have left : (kept.filter (· ∉ taken)).Nodup := distinct.filter _
  rw [← left.erase_getElem index inside, left.erase_eq_filter, List.filter_filter]
  apply List.filter_congr
  intro other _
  rw [Bool.and_comm]
  simp [bne, beq_eq_decide]

theorem Reached.absorb {kept taken : List Blob} {blob : Blob} {growth : Growth} (distinct : kept.Nodup)
    (reached : Reached kept blob taken growth) {index : Nat} (inside : index < growth.kept.length) :
    Reached kept blob (taken ++ [growth.kept[index]]) (growth.absorb index growth.kept[index]) := by
  obtain ⟨left, hull, slot⟩ := growth
  obtain ⟨parted, left_eq, place, spans⟩ := reached
  simp only at left_eq place spans inside parted
  subst left_eq
  have found : (kept.filter (· ∉ taken))[index]? = some (kept.filter (· ∉ taken))[index] :=
    List.getElem?_eq_getElem inside
  refine ⟨?_, filter_taken distinct inside, ?_, ?_⟩
  · rw [List.append_assoc]
    exact ((List.getElem_cons_eraseIdx_perm inside).append_left taken).trans parted
  · rw [findIdx_taken distinct found, ← place]
    cases slot with
    | none =>
      -- Nothing is noted yet: the end of the list stands in for a place, and every index is below it.
      have shorter := List.length_filter_le (fun box => decide (box ∉ taken)) kept
      simp only [Growth.absorb, Option.getD_some, Option.getD_none]
      omega
    | some slot => rfl
  · have joined := spans_hull spans (.singleton (kept.filter (· ∉ taken))[index].bounds)
    simpa [Growth.absorb] using joined

theorem Rounds.reached {kept taken absorbed : List Blob} {blob : Blob} {growth final : Growth} (distinct : kept.Nodup)
    (rounds : growth.Rounds absorbed final) (reached : Reached kept blob taken growth) :
    Reached kept blob (taken ++ absorbed) final := by
  induction rounds generalizing taken with
  | done => simpa using reached
  | round inside _ _ _ ih => simpa using ih (reached.absorb distinct inside)

theorem Rounds.clear {absorbed : List Blob} {growth final : Growth} (rounds : growth.Rounds absorbed final) :
    ∀ other ∈ final.kept, other.overlaps final.hull = false := by
  induction rounds with
  | done clear => exact clear
  | round _ _ _ _ ih => exact ih

end Growth

theorem insertIdx_findIdx (kept taken : List Blob) (hull : Blob) :
    (kept.filter (· ∉ taken)).insertIdx (kept.findIdx (· ∈ taken)) hull =
      kept.take (kept.findIdx (· ∈ taken)) ++
        hull :: (kept.drop (kept.findIdx (· ∈ taken))).filter (· ∉ taken) := by
  induction kept with
  | nil => simp
  | cons head kept ih =>
    by_cases old : head ∈ taken
    · simp [List.findIdx_cons, old]
    · rw [List.filter_cons_of_pos (by simpa using old)]
      simp only [List.findIdx_cons, old, decide_false, cond_false, List.insertIdx_succ_cons, ih]
      rfl

/-- The hull is put where the earliest box taken in has stood. -/
theorem Growth.Reached.merge_eq {kept absorbed : List Blob} {blob : Blob} {final : Growth}
    (reached : Reached kept blob absorbed final) (grown : Growth.run ⟨kept, blob, none⟩ = final) :
    merge kept blob = kept.take (kept.findIdx (· ∈ absorbed)) ++
      final.hull :: (kept.drop (kept.findIdx (· ∈ absorbed))).filter (· ∉ absorbed) := by
  have place := reached.place
  rw [← insertIdx_findIdx, ← reached.left]
  simp only [merge, grown]
  cases noted : final.slot with
  | none =>
    rw [noted, Option.getD_none] at place
    have spared : ∀ other ∈ kept, other ∉ absorbed := by
      simpa using List.findIdx_eq_length.mp place.symm
    have all : final.kept = kept := by
      rw [reached.left, List.filter_eq_self]
      simpa using spared
    rw [← place, all, List.insertIdx_length_self]
  | some slot =>
    rw [noted, Option.getD_some] at place
    rw [← place]

structure Restored (kept : List Blob) (blob : Blob) (absorbed : List Blob) (final : Growth) (merged : List Blob) :
    Prop where
  rounds : Growth.Rounds ⟨kept, blob, none⟩ absorbed final
  /-- Every kept box is taken in, once, or left. -/
  parted : (absorbed ++ kept.filter (· ∉ absorbed)).Perm kept
  /-- The hull is the smallest rectangle around the new box and those taken in. -/
  spans : final.hull.bounds.Spans ((blob :: absorbed).map Blob.bounds)
  closed : ∀ other ∈ kept, other ∉ absorbed → other.overlaps final.hull = false
  /-- The hull stands where the earliest box taken in stood, or last if there is none, and the others as they stood. -/
  placed : merged = kept.take (kept.findIdx (· ∈ absorbed)) ++
    final.hull :: (kept.drop (kept.findIdx (· ∈ absorbed))).filter (· ∉ absorbed)
  apart : Apart merged
  /-- Every box has a pixel, and its sides are as long as its bounds say. -/
  filled : ∀ other ∈ merged, other.isEmpty = false
  sides : ∀ other ∈ merged, other.width = other.right - other.left + 1 ∧ other.height = other.bottom - other.top + 1

/-- Adding a box to boxes that do not overlap comes to an end, and gives boxes that do not overlap, as long as a
rectangle around all of them has sides that are words. -/
theorem merge_restores {kept : List Blob} {blob : Blob} {frame : Bounds} (inRange : frame.InRange)
    (around : ∀ other ∈ blob :: kept, other.InRange ∧ frame.Encloses other.bounds) (apart : Apart kept)
    (filled : ∀ other ∈ blob :: kept, other.isEmpty = false) :
    ∃ absorbed final, Restored kept blob absorbed final (merge kept blob) := by
  have inside : ∀ other ∈ blob :: kept, other.Inside frame := fun other member =>
    (around other member).1.inside (filled other member) (around other member).2
  obtain ⟨added, known⟩ := List.forall_mem_cons.mp inside
  obtain ⟨absorbed, rounds⟩ := Growth.exists_rounds ⟨kept, blob, none⟩
  have reached := rounds.reached (apart.nodup inRange known) (Growth.reached_start kept blob)
  rw [List.nil_append] at reached
  have merged := merge_keeps (Inside frame) (fun _ _ => Inside.hull) known added
  refine ⟨absorbed, _, rounds, reached.left ▸ reached.parted, reached.spans, ?_, reached.merge_eq rfl,
    merge_apart apart blob, fun other member => (merged other member).filled inRange,
    fun other member => ((merged other member).held.fields ((merged other member).bounds_inRange inRange)).2⟩
  intro other known new
  apply rounds.clear
  rw [reached.left]
  simpa using ⟨known, new⟩

/-- Five boxes, of which the fourth and the second make up a corner. -/
def cornered : List Blob :=
  [⟨0, 30, 3, 33⟩, ⟨0, 0, 3, 3⟩, ⟨30, 30, 33, 33⟩, ⟨0, 8, 9, 17⟩, ⟨30, 0, 33, 3⟩].map ofBounds

/-- A box that overlaps the fourth one only; the two of them enclose the second one. -/
def arriving : Blob := ofBounds ⟨4, 0, 13, 13⟩

theorem merge_restores_cornered :
    (⟨0, 0, 33, 33⟩ : Bounds).InRange ∧
    (∀ other ∈ arriving :: cornered, other.InRange ∧ (⟨0, 0, 33, 33⟩ : Bounds).Encloses other.bounds) ∧
    Apart cornered ∧ (∀ other ∈ arriving :: cornered, other.isEmpty = false) ∧
    (merge cornered arriving).map bounds =
      [⟨0, 30, 3, 33⟩, ⟨0, 0, 13, 17⟩, ⟨30, 30, 33, 33⟩, ⟨30, 0, 33, 3⟩] ∧
    ∃ absorbed final, Restored cornered arriving absorbed final (merge cornered arriving) :=
  have inRange : (⟨0, 0, 33, 33⟩ : Bounds).InRange := by constructor <;> decide
  have around : ∀ other ∈ arriving :: cornered,
      other.InRange ∧ (⟨0, 0, 33, 33⟩ : Bounds).Encloses other.bounds := by decide
  ⟨inRange, around, by decide, by decide, by decide +kernel, merge_restores inRange around (by decide) (by decide)⟩

/-- Two boxes that overlap, and whose hull is more than half of the range wide. -/
def wide : Blob × Blob := (⟨0, -1073741000, 2147483647, 3⟩, ⟨0, 0, 2147483647, 3⟩)

/-- A side that is too long for a word comes out negative, so that a box without a pixel stands for both. -/
theorem merge_empties_wide :
    (∀ other ∈ [wide.2, wide.1], other.InRange ∧ other.isEmpty = false) ∧ Apart [wide.1] ∧
    wide.1.overlaps wide.2 = true ∧ merge [wide.1] wide.2 = [⟨0, 1610613149, -1073742649, 3⟩] ∧
    isEmpty ⟨0, 1610613149, -1073742649, 3⟩ = true :=
  ⟨by decide, by decide, by decide, by decide +kernel, by decide⟩

end TouchTracking.Blob
