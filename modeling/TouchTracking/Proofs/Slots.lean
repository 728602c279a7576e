import TouchTracking.Tracking.Arena

/-! Slots seen as the list of their entries: what each operation on the slots does to that list. -/
namespace TouchTracking.Arena

@[simp] theorem entries_mapEntries (arena : Arena) (change : TrackedBlob → TrackedBlob) :
    (arena.mapEntries change).entries = arena.entries.map change := by
  simp only [entries, mapEntries, List.filterMap_map, List.map_filterMap]
  rfl

@[simp] theorem entries_filterMapEntries (arena : Arena)
    (change : TrackedBlob → Option TrackedBlob) :
    (arena.filterMapEntries change).entries = arena.entries.filterMap change := by
  simp only [entries, filterMapEntries, List.filterMap_map, List.filterMap_filterMap]
  rfl

@[simp] theorem entries_endFrame (arena : Arena) (front : List TrackedBlob) :
    (arena.endFrame front).entries = front ++ arena.entries := by
  simp only [entries, endFrame, List.filterMap_map]
  exact List.filterMap_some

theorem map_snd_indexed (arena : Arena) : arena.indexed.map (·.2) = arena.entries := by
  have unpaired : arena.entries = (arena.slots.zipIdx.map (·.1)).filterMap id := by
    rw [entries, List.zipIdx_map_fst]
  rw [unpaired, List.filterMap_map, indexed, List.map_filterMap]
  congr 1
  funext ⟨entry, slot⟩
  cases entry <;> rfl

theorem entries_modify_append {arena : Arena} {before after : List (Option TrackedBlob)}
    {entry : TrackedBlob} (split : arena.slots = before ++ some entry :: after)
    (change : TrackedBlob → TrackedBlob) :
    (arena.modify before.length change).entries =
      before.filterMap id ++ change entry :: after.filterMap id := by
  have written : (arena.modify before.length change).slots =
      before ++ some (change entry) :: after := by
    simp [modify, split, List.modify_eq_take_cons_drop]
  simp [entries, written]

/-- The entries of some slots, each with its slot, when the first slot has the given number. -/
def numbered (first : Nat) (slots : List (Option TrackedBlob)) : List (Nat × TrackedBlob) :=
  (slots.zipIdx first).filterMap fun (entry, slot) => entry.map (slot, ·)

theorem numbered_none (first : Nat) (slots : List (Option TrackedBlob)) :
    numbered first (none :: slots) = numbered (first + 1) slots := rfl

theorem numbered_some (first : Nat) (entry : TrackedBlob) (slots : List (Option TrackedBlob)) :
    numbered first (some entry :: slots) = (first, entry) :: numbered (first + 1) slots := rfl

theorem find_numbered {wanted : TrackedBlob → Bool} {slots : List (Option TrackedBlob)}
    {first slot : Nat} {entry : TrackedBlob}
    (found : (numbered first slots).find? (fun entry => wanted entry.2) = some (slot, entry)) :
    ∃ before after, slots = before ++ some entry :: after ∧ slot = first + before.length ∧
      wanted entry = true ∧ ∀ other ∈ before.filterMap id, wanted other = false := by
  induction slots generalizing first with
  | nil => simp [numbered] at found
  | cons head slots ih =>
    cases head with
    | none =>
      rw [numbered_none] at found
      obtain ⟨before, after, split, place, yes, no⟩ := ih found
      exact ⟨none :: before, after, by rw [split]; rfl, by simp [place]; omega, yes, no⟩
    | some head =>
      rw [numbered_some, List.find?_cons] at found
      cases hit : wanted head with
      | true =>
        simp only [hit, Option.some.injEq, Prod.mk.injEq] at found
        obtain ⟨rfl, rfl⟩ := found
        exact ⟨[], slots, rfl, rfl, hit, by simp⟩
      | false =>
        simp only [hit] at found
        obtain ⟨before, after, split, place, yes, no⟩ := ih found
        refine ⟨some head :: before, after, by rw [split]; rfl, by simp [place]; omega, yes, ?_⟩
        intro other member
        rcases List.mem_cons.mp member with rfl | member
        · exact hit
        · exact no other member

/-- The first wanted entry splits the entries, and writing over its slot touches nothing else. -/
theorem find_indexed_some {arena : Arena} (wanted : TrackedBlob → Bool) {slot : Nat}
    {entry : TrackedBlob}
    (found : arena.indexed.find? (fun entry => wanted entry.2) = some (slot, entry)) :
    ∃ before after, arena.entries = before ++ entry :: after ∧ wanted entry = true ∧
      (∀ other ∈ before, wanted other = false) ∧
      ∀ change, (arena.modify slot change).entries = before ++ change entry :: after := by
  obtain ⟨before, after, split, place, yes, no⟩ := find_numbered found
  rw [Nat.zero_add] at place
  subst place
  refine ⟨before.filterMap id, after.filterMap id, ?_, yes, no, entries_modify_append split⟩
  simp [entries, split]

theorem find_indexed_none {arena : Arena} (wanted : TrackedBlob → Bool)
    (missing : arena.indexed.find? (fun entry => wanted entry.2) = none) :
    ∀ entry ∈ arena.entries, wanted entry = false := by
  intro entry member
  rw [← map_snd_indexed] at member
  obtain ⟨pair, pair_member, rfl⟩ := List.mem_map.mp member
  simpa using List.find?_eq_none.mp missing pair pair_member

end TouchTracking.Arena
