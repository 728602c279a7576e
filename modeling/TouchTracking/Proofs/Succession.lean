import TouchTracking.Proofs.Fading
import TouchTracking.Proofs.Identity

/-! From one tracked list to the next. `Succeeds` says once what an entry can be after a frame: a box of the frame
under the identity of a prior, a box of the frame under a new identity, or what is left of a prior. -/
namespace TouchTracking.Tracker

/-- Everything that a tracked entry can be after a frame. -/
inductive Succeeds (tracker : Tracker) (candidates : List Blob) : TrackedBlob → Prop
  | inherited (prior : TrackedBlob) (blob : Blob) (held : prior ∈ tracker.tracked) (found : blob ∈ candidates) :
      Succeeds tracker candidates (inherit tracker.params.minAge prior blob)
  | appeared (blob : Blob) (id : Nat) (found : blob ∈ candidates) (unused : tracker.nextId ≤ id) :
      Succeeds tracker candidates (TrackedBlob.ofBlob blob id)
  | faded (prior : TrackedBlob) (held : prior ∈ tracker.tracked)
      (young : prior.age + 1 ≤ tracker.params.maxAge) (wide : prior.blob.shrunk.isEmpty = false) :
      Succeeds tracker candidates (faded prior)

theorem mem_of_claims {priors : List TrackedBlob} {blobs : List Blob} {prior : TrackedBlob}
    (taken : some prior ∈ claims priors blobs) : prior ∈ priors := by
  induction blobs generalizing priors with
  | nil => cases taken
  | cons blob blobs ih =>
    rcases List.mem_cons.mp taken with first | later
    · exact List.mem_of_find?_eq_some first.symm
    · exact List.mem_of_mem_eraseP (ih later)

/-- An entry of a box inherits from the prior that the box takes, or has an identity from the counter. -/
theorem named_origin {minAge nextId : Nat} {pairs : List (Blob × Option TrackedBlob)} {entry : TrackedBlob}
    (member : entry ∈ named minAge nextId pairs) :
    (∃ blob prior, (blob, some prior) ∈ pairs ∧ entry = inherit minAge prior blob) ∨
    ∃ blob id, (blob, none) ∈ pairs ∧ nextId ≤ id ∧ entry = TrackedBlob.ofBlob blob id := by
  induction pairs generalizing nextId with
  | nil => cases member
  | cons pair pairs ih =>
    have among {next : Nat} (later : entry ∈ named minAge next pairs) (bound : nextId ≤ next) :
        (∃ blob prior, (blob, some prior) ∈ pair :: pairs ∧ entry = inherit minAge prior blob) ∨
        ∃ blob id, (blob, none) ∈ pair :: pairs ∧ nextId ≤ id ∧ entry = TrackedBlob.ofBlob blob id := by
      rcases ih later with ⟨blob, prior, paired, same⟩ | ⟨blob, id, paired, unused, same⟩
      · exact .inl ⟨blob, prior, List.mem_cons_of_mem _ paired, same⟩
      · exact .inr ⟨blob, id, List.mem_cons_of_mem _ paired, Nat.le_trans bound unused, same⟩
    obtain ⟨blob, _ | prior⟩ := pair
    · rcases List.mem_cons.mp member with rfl | later
      · exact .inr ⟨blob, nextId, List.mem_cons_self, Nat.le_refl _, rfl⟩
      · exact among later (Nat.le_succ _)
    · rcases List.mem_cons.mp member with rfl | later
      · exact .inl ⟨blob, prior, List.mem_cons_self, rfl⟩
      · exact among later (Nat.le_refl _)

theorem succeeds {tracker : Tracker} {candidates : List Blob} {entry : TrackedBlob}
    (member : entry ∈ (tracker.advance candidates).tracked) : Succeeds tracker candidates entry := by
  rw [(tracked_advance_described tracker candidates).1] at member
  rcases List.mem_append.mp member with new | old
  · rcases named_origin new with ⟨blob, prior, paired, rfl⟩ | ⟨blob, id, paired, unused, rfl⟩
    · obtain ⟨found, taken⟩ := List.of_mem_zip paired
      exact .inherited prior blob (mem_of_claims taken) (keepApart_subset _ _ found)
    · obtain ⟨found, -⟩ := List.of_mem_zip paired
      exact .appeared blob id (keepApart_subset _ _ found) unused
  · obtain ⟨prior, listed, rfl⟩ := List.mem_map.mp old
    obtain ⟨free, lasting⟩ := List.mem_filter.mp listed
    obtain ⟨young, wide, -⟩ := (lasts_iff ..).mp lasting
    exact .faded prior ((unclaimed_sublist ..).subset free) young wide

/-- Only a prior that nobody took is tracked without being matched. -/
theorem faded_of_unmatched {tracker : Tracker} {candidates : List Blob} {entry : TrackedBlob}
    (member : entry ∈ (tracker.advance candidates).tracked) (unmatched : entry.matched = false) :
    ∃ prior ∈ tracker.tracked, prior.blob.shrunk.isEmpty = false ∧ entry = faded prior := by
  cases succeeds member with
  | inherited | appeared => cases unmatched
  | faded prior held _ wide => exact ⟨prior, held, wide, rfl⟩

theorem Numbered.eq_of_id {tracker : Tracker} (numbered : Numbered tracker) {entry other : TrackedBlob}
    (member : entry ∈ tracker.tracked) (member' : other ∈ tracker.tracked) (same : entry.id = other.id) :
    entry = other :=
  List.inj_on_of_nodup_map numbered.distinct member member' same

end TouchTracking.Tracker
