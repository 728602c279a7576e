import Mathlib.Data.List.Basic
import TouchTracking.Proofs.Boxes
import TouchTracking.Proofs.Slots
import TouchTracking.Tracking.Tracker

/-! What one frame does to the tracked boxes. `Offered` says once everything that one box of the frame
can do; what holds of a frame in the course of matching is proved over its three cases, and
`tracked_advance` takes it over to the next tracked list. -/
namespace TouchTracking.Tracker

/-- Whether a box of the frame may take the identity of an entry. -/
def Claims (blob : Blob) (entry : TrackedBlob) : Prop :=
  entry.matched = false ∧ entry.blob.overlaps blob = true

theorem claims_iff (blob : Blob) (entry : TrackedBlob) :
    (!entry.matched && entry.blob.overlaps blob) = true ↔ Claims blob entry := by
  simp [Claims]

theorem not_collides_iff (accepted : List TrackedBlob) (blob : Blob) :
    collides accepted blob = false ↔ ∀ entry ∈ accepted, entry.blob.overlaps blob = false := by
  simp [collides]

def taken (entry : TrackedBlob) : TrackedBlob := { entry with matched := true }

/-- Everything that offering one box of the frame can do. -/
inductive Offered (minAge : Nat) (blob : Blob) (matching next : Matching) : Prop
  | discarded (meets : collides matching.accepted blob = true) (same : next = matching)
  | inherited (prior : TrackedBlob) (before after : List TrackedBlob)
      (clear : collides matching.accepted blob = false)
      (carried : matching.arena.entries = before ++ prior :: after)
      (claims : Claims blob prior) (first : ∀ entry ∈ before, ¬ Claims blob entry)
      (arena : next.arena.entries = before ++ taken prior :: after)
      (accepted : next.accepted = matching.accepted ++ [inherit minAge prior blob])
      (nextId : next.nextId = matching.nextId)
  | appeared (clear : collides matching.accepted blob = false)
      (none : ∀ entry ∈ matching.arena.entries, ¬ Claims blob entry)
      (arena : next.arena = matching.arena)
      (accepted : next.accepted = matching.accepted ++ [TrackedBlob.ofBlob blob matching.nextId])
      (nextId : next.nextId = matching.nextId + 1)

theorem offered (minAge : Nat) (matching : Matching) (blob : Blob) :
    Offered minAge blob matching (matching.offer minAge blob) := by
  unfold Matching.offer
  split
  next meets => exact .discarded meets rfl
  next clear =>
    rw [Bool.not_eq_true] at clear
    split
    next slot prior found =>
      obtain ⟨before, after, carried, claims, first, write⟩ := Arena.find_indexed_some
        (fun entry => !entry.matched && entry.blob.overlaps blob) found
      refine .inherited prior before after clear carried ((claims_iff ..).mp claims) ?_ (write _)
        rfl rfl
      intro entry member claims
      exact Bool.false_ne_true ((first entry member).symm.trans ((claims_iff ..).mpr claims))
    next missing =>
      refine .appeared clear ?_ rfl rfl rfl
      intro entry member claims
      have unclaimed := Arena.find_indexed_none
        (fun entry => !entry.matched && entry.blob.overlaps blob) missing entry member
      exact Bool.false_ne_true (unclaimed.symm.trans ((claims_iff ..).mpr claims))

/-- The frame before its first box: nothing that is carried over is taken. -/
def opening (tracker : Tracker) : Matching :=
  ⟨tracker.arena.mapEntries ({ · with matched := false }), [], tracker.nextId⟩

def matched (tracker : Tracker) (candidates : List Blob) : Matching :=
  candidates.foldl (Matching.offer tracker.params.minAge) tracker.opening

/-- What the boxes of a frame preserve one by one holds when all of them are matched. -/
theorem matched_invariant (property : Matching → Prop) (tracker : Tracker)
    (candidates : List Blob) (initial : property tracker.opening)
    (preserved : ∀ matching blob next, property matching →
      Offered tracker.params.minAge blob matching next → property next) :
    property (tracker.matched candidates) :=
  List.foldlRecOn candidates _ initial fun matching holds blob _ =>
    preserved matching blob _ holds (offered ..)

/-- The new tracked list: the accepted boxes, then what remains of the carried ones. -/
theorem tracked_advance (tracker : Tracker) (candidates : List Blob) :
    (tracker.advance candidates).tracked = (tracker.matched candidates).accepted ++
      (tracker.matched candidates).arena.entries.filterMap
        (decay tracker.params.maxAge (tracker.matched candidates).accepted) := by
  simp only [tracked, advance, matched, opening, Arena.entries_endFrame,
    Arena.entries_filterMapEntries]

theorem entries_opening (tracker : Tracker) :
    tracker.opening.arena.entries = tracker.tracked.map ({ · with matched := false }) := by
  simp only [opening, tracked, Arena.entries_mapEntries]

def unmarked (entry : TrackedBlob) : TrackedBlob := { entry with matched := false }

theorem carried_matched (tracker : Tracker) (candidates : List Blob) :
    (tracker.matched candidates).arena.entries.map unmarked = tracker.tracked.map unmarked := by
  apply matched_invariant fun matching =>
    matching.arena.entries.map unmarked = tracker.tracked.map unmarked
  · rw [entries_opening, List.map_map]
    rfl
  · intro matching blob next same offered
    cases offered with
    | discarded _ kept => rw [kept, same]
    | inherited prior before after _ carried _ _ arena =>
      rw [← same, carried, arena, List.map_append, List.map_append]
      rfl
    | appeared _ _ arena => rw [arena, same]

/-- What survives is an entry that nobody took, under its identity, shrunk and clear of the frame's
boxes. -/
theorem decay_eq_some_iff (maxAge : Nat) (accepted : List TrackedBlob) (prior entry : TrackedBlob) :
    decay maxAge accepted prior = some entry ↔
      prior.matched = false ∧ prior.age + 1 ≤ maxAge ∧ prior.blob.shrunk.isEmpty = false ∧
        collides accepted prior.blob.shrunk = false ∧
        { prior with age := prior.age + 1, blob := prior.blob.shrunk } = entry := by
  unfold decay
  cases prior.matched <;> simp [and_assoc]

end TouchTracking.Tracker
