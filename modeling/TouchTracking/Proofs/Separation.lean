import TouchTracking.Proofs.Boxes
import TouchTracking.Proofs.Fading

/-! No two tracked boxes overlap. Accepted boxes are kept apart by the collision test, survivors from
accepted boxes by absorption, and survivors from each other because shrinking adds no pixel to a box
and leaves its centre in place, as long as no side is the least word. -/
namespace TouchTracking.Tracker

def Apart (entries : List TrackedBlob) : Prop :=
  entries.Pairwise fun entry other => entry.blob.overlaps other.blob = false

theorem apart_snoc {entries : List TrackedBlob} {entry : TrackedBlob} (apart : Apart entries)
    (clear : collides entries entry.blob = false) : Apart (entries ++ [entry]) := by
  rw [not_collides_iff] at clear
  refine List.pairwise_append.mpr ⟨apart, List.pairwise_singleton .., ?_⟩
  intro other member last same
  rw [List.mem_singleton.mp same]
  exact clear other member

theorem accepted_apart (tracker : Tracker) (candidates : List Blob) :
    Apart (tracker.matched candidates).accepted := by
  apply matched_invariant fun matching => Apart matching.accepted
  · exact .nil
  · intro matching blob next apart offered
    cases offered with
    | discarded _ same => exact same ▸ apart
    | inherited _ _ _ clear _ _ _ _ accepted => exact accepted ▸ apart_snoc apart clear
    | appeared clear _ _ accepted => exact accepted ▸ apart_snoc apart clear

theorem apart_unmarked (entries : List TrackedBlob) : Apart (entries.map unmarked) ↔ Apart entries :=
  List.pairwise_map

/-- Nothing is cut when the box is worked out, nor when a pixel is taken off both of its sides. -/
def Exact (entry : TrackedBlob) : Prop := entry.blob.InRange ∧ entry.blob.Shrinkable

theorem survivors_apart {entries : List TrackedBlob} (apart : Apart entries) (exact : ∀ entry ∈ entries, Exact entry)
    (maxAge : Nat) (accepted : List TrackedBlob) : Apart (entries.filterMap (decay maxAge accepted)) := by
  have exact_apart : entries.Pairwise fun entry other =>
      (Exact entry ∧ Exact other) ∧ entry.blob.overlaps other.blob = false :=
    apart.imp_of_mem fun member member' clear => ⟨⟨exact _ member, exact _ member'⟩, clear⟩
  refine List.Pairwise.filterMap _ ?_ exact_apart
  intro prior other ⟨⟨here, there⟩, clear⟩ survivor aged rest aged_rest
  obtain ⟨-, -, wide, -, rfl⟩ := (decay_eq_some_iff ..).mp aged
  obtain ⟨-, -, wide', -, rfl⟩ := (decay_eq_some_iff ..).mp aged_rest
  exact Blob.not_overlaps_shrunk here.1 there.1 here.2 there.2 wide wide' clear

theorem advance_apart {tracker : Tracker} (apart : Apart tracker.tracked)
    (exact : ∀ entry ∈ tracker.tracked, Exact entry) (candidates : List Blob) :
    Apart (tracker.advance candidates).tracked := by
  have carried : Apart (tracker.matched candidates).arena.entries := by
    rw [← apart_unmarked, carried_matched, apart_unmarked]
    exact apart
  have carried_exact : ∀ entry ∈ (tracker.matched candidates).arena.entries, Exact entry := by
    intro entry member
    have marked : unmarked entry ∈ (tracker.matched candidates).arena.entries.map unmarked := List.mem_map_of_mem member
    rw [carried_matched] at marked
    obtain ⟨prior, held, same⟩ := List.mem_map.mp marked
    have boxes : prior.blob = entry.blob := congrArg (·.blob) same
    rw [Exact, ← boxes]
    exact exact prior held
  rw [tracked_advance]
  refine List.pairwise_append.mpr ⟨accepted_apart .., survivors_apart carried carried_exact .., ?_⟩
  intro entry member survivor survives
  obtain ⟨prior, -, aged⟩ := List.mem_filterMap.mp survives
  obtain ⟨-, -, -, clear, rfl⟩ := (decay_eq_some_iff ..).mp aged
  exact (not_collides_iff ..).mp clear entry member

theorem advance_exact {tracker : Tracker} (exact : ∀ entry ∈ tracker.tracked, Exact entry) {candidates : List Blob}
    (found : ∀ blob ∈ candidates, blob.InRange ∧ blob.Shrinkable) :
    ∀ entry ∈ (tracker.advance candidates).tracked, Exact entry := by
  intro entry member
  obtain ⟨fresh, left, tracked, boxes, remains⟩ := tracked_advance_split tracker candidates
  rw [tracked] at member
  rcases List.mem_append.mp member with new | old
  · exact found _ (boxes entry new).2.2
  · obtain ⟨prior, listed, rfl⟩ := List.mem_map.mp old
    obtain ⟨held, -, wide⟩ := remains prior listed
    obtain ⟨inRange, shrinkable⟩ := exact prior held
    exact ⟨inRange.shrunk shrinkable wide, shrinkable.shrunk⟩

theorem run_apart {tracker : Tracker} {past : List Frame} (apart : Apart tracker.tracked)
    (exact : ∀ entry ∈ tracker.tracked, Exact entry) {actions : List Action}
    (found : ∀ frame ∈ tracker.journal past actions, ∀ blob ∈ frame.found, blob.InRange ∧ blob.Shrinkable) :
    Apart (tracker.run actions).tracked :=
  (run_keeps (fun tracker => Apart tracker.tracked ∧ ∀ entry ∈ tracker.tracked, Exact entry)
    (fun _ _ held boxes => ⟨advance_apart held.1 held.2 _, advance_exact held.2 boxes⟩)
    (fun _ _ held same => same ▸ held) (fun _ empty => empty ▸ ⟨.nil, List.forall_mem_nil _⟩)
    ⟨apart, exact⟩ found).1

/-- In every reachable state two entries at different places do not overlap, as long as nothing is cut when the boxes
of the frames are worked out and no side of theirs is the least word. -/
theorem tracked_never_overlap {tracker : Tracker} (fresh : Fresh tracker) (actions : List Action)
    (inRange : ∀ frame ∈ tracker.journal [] actions, ∀ blob ∈ frame.found, blob.InRange)
    (shrinkable : Shrinkable (tracker.journal [] actions)) (place other : Nat) (entry rest : TrackedBlob)
    (here : (tracker.run actions).tracked[place]? = some entry)
    (there : (tracker.run actions).tracked[other]? = some rest) (distinct : place ≠ other) :
    entry.blob.overlaps rest.blob = false := by
  have start : tracker.tracked = [] := fresh.blank.1
  have apart : Apart (tracker.run actions).tracked := run_apart (start ▸ .nil) (start ▸ List.forall_mem_nil _)
    fun frame member blob found => ⟨inRange frame member blob found, shrinkable frame member blob found⟩
  have apart := List.pairwise_iff_getElem.mp apart
  obtain ⟨place_lt, rfl⟩ := List.getElem?_eq_some_iff.mp here
  obtain ⟨other_lt, rfl⟩ := List.getElem?_eq_some_iff.mp there
  rcases Nat.lt_or_gt_of_ne distinct with before | after
  · exact apart place other place_lt other_lt before
  · rw [Blob.overlaps_comm]
    exact apart other place other_lt place_lt after

/-- Equal, empty and neighbouring boxes, and a frame that misses them all but one. -/
def crowd : List Action :=
  [.update [⟨5, 5, 10, 10⟩, ⟨5, 5, 10, 10⟩, ⟨20, 20, 0, 4⟩, ⟨5, 13, 7, 9⟩, ⟨40, 40, 9, 9⟩] 64 64,
    .update [⟨41, 41, 9, 9⟩] 64 64]

theorem tracked_never_overlap_crowd :
    (∀ frame ∈ standard.journal [] crowd, ∀ blob ∈ frame.found, blob.InRange ∧ blob.Shrinkable) ∧
    (standard.run crowd).tracked[1]? = some ⟨⟨5, 5, 9, 9⟩, 1, 1, false, 0⟩ ∧
    (standard.run crowd).tracked[2]? = some ⟨⟨5, 13, 6, 8⟩, 3, 1, false, 0⟩ ∧
    Blob.overlaps ⟨5, 5, 9, 9⟩ ⟨5, 13, 6, 8⟩ = false := by
  have found : ∀ boxes ∈ (standard.journal [] crowd).map Frame.found,
      ∀ blob ∈ boxes, blob.InRange ∧ blob.Shrinkable := by
    decide
  have exact := List.forall_mem_map.mp found
  exact ⟨exact, by decide, by decide, tracked_never_overlap .standard crowd
    (fun frame member blob held => (exact frame member blob held).1)
    (fun frame member blob held => (exact frame member blob held).2) 1 2 ⟨⟨5, 5, 9, 9⟩, 1, 1, false, 0⟩
    ⟨⟨5, 13, 6, 8⟩, 3, 1, false, 0⟩ (by decide) (by decide) (by decide)⟩

/-- Two boxes that do not overlap, of which the one has the least word for its width, and a frame that misses both. -/
def stretched : List Action := [.update [least, ⟨0, 100, 10, 5⟩] 64 64, .update [] 64 64]

/-- All coordinates are words without being cut, and yet what is left of the two boxes overlaps: one less than the
least word is the greatest one. -/
theorem survivors_overlap_stretched :
    (∀ frame ∈ standard.journal [] stretched, ∀ blob ∈ frame.found, blob.InRange) ∧
    (standard.run stretched).tracked =
      [⟨⟨0, 0, 2 ^ 31 - 1, 4⟩, 1, 1, false, 0⟩, ⟨⟨0, 100, 9, 4⟩, 2, 1, false, 0⟩] ∧
    Blob.overlaps ⟨0, 0, 2 ^ 31 - 1, 4⟩ ⟨0, 100, 9, 4⟩ = true := by
  have found : ∀ boxes ∈ (standard.journal [] stretched).map Frame.found, ∀ blob ∈ boxes, blob.InRange := by decide
  exact ⟨List.forall_mem_map.mp found, by decide, by decide⟩

end TouchTracking.Tracker
