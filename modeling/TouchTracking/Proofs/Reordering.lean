import Mathlib.Data.List.Find
import Mathlib.Data.List.Perm.Basic
import TouchTracking.Proofs.Assignment

/-! Frames that leave nothing to choose: no two boxes of the frame overlap, and no box overlaps more than one
prior, nor a prior more than one box. Then it does not matter who comes first. Each box has its prior whatever
was taken before, so the order of the boxes decides only in which order the accepted entries stand and which of
the new identities goes to which of the new boxes. -/
namespace TouchTracking

/-- Boxes of which no two overlap are all kept. -/
theorem Blob.keepApart_of_apart {kept blobs : List Blob}
    (apart : (kept ++ blobs).Pairwise fun blob other => blob.overlaps other = false) :
    keepApart kept blobs = blobs := by
  induction blobs generalizing kept with
  | nil => rfl
  | cons blob blobs ih =>
    have clear : kept.any (·.overlaps blob) = false := by
      rw [List.any_eq_false]
      intro other member
      rw [(List.pairwise_append.mp apart).2.2 other member blob List.mem_cons_self]
      exact Bool.false_ne_true
    rw [keepApart, if_neg (Bool.eq_false_iff.mp clear), ih]
    rwa [List.append_assoc]

namespace Tracker

/-- No two boxes overlap, and boxes and priors overlap in pairs, if at all. -/
structure Unambiguous (priors : List TrackedBlob) (blobs : List Blob) : Prop where
  apart : blobs.Pairwise fun blob other => blob.overlaps other = false
  sole : ∀ blob ∈ blobs, priors.countP (·.blob.overlaps blob) ≤ 1
  lone : ∀ prior ∈ priors, blobs.countP (prior.blob.overlaps ·) ≤ 1

theorem Unambiguous.perm {priors : List TrackedBlob} {blobs others : List Blob}
    (clear : Unambiguous priors blobs) (permuted : blobs.Perm others) : Unambiguous priors others where
  apart := by
    refine (permuted.pairwise_iff fun {blob other} apart => ?_).mp clear.apart
    rwa [Blob.overlaps_comm]
  sole blob member := clear.sole blob (permuted.mem_iff.mpr member)
  lone prior member := permuted.countP_eq _ ▸ clear.lone prior member

/-- Where one entry at most is wanted, taking the first wanted one leaves just the unwanted ones. -/
theorem eraseP_eq_filter {wanted : TrackedBlob → Bool} {priors : List TrackedBlob}
    (sole : priors.countP wanted ≤ 1) : priors.eraseP wanted = priors.filter (!wanted ·) := by
  induction priors with
  | nil => rfl
  | cons prior priors ih =>
    cases hit : wanted prior with
    | true =>
      rw [List.countP_cons_of_pos hit] at sole
      have unwanted := List.countP_eq_zero.mp (Nat.le_zero.mp (Nat.le_of_succ_le_succ sole))
      rw [List.eraseP_cons_of_pos hit, List.filter_cons_of_neg (by simp [hit]), List.filter_eq_self.mpr]
      intro other member
      simpa using unwanted other member
    | false =>
      rw [List.countP_cons_of_neg (by simp [hit])] at sole
      rw [List.eraseP_cons_of_neg (by simp [hit]), List.filter_cons_of_pos (by simp [hit]), ih sole]

def priorOf (priors : List TrackedBlob) (blob : Blob) : Option TrackedBlob :=
  priors.find? (·.blob.overlaps blob)

def isNew (priors : List TrackedBlob) (blob : Blob) : Bool := (priorOf priors blob).isNone

section Pairs

variable {priors : List TrackedBlob} {blob : Blob} {blobs : List Blob}

theorem Unambiguous.tail (clear : Unambiguous priors (blob :: blobs)) :
    Unambiguous (priors.filter (!·.blob.overlaps blob)) blobs where
  apart := clear.apart.of_cons
  sole other member :=
    Nat.le_trans List.filter_sublist.countP_le (clear.sole other (List.mem_cons_of_mem _ member))
  lone prior member :=
    Nat.le_trans (List.sublist_cons_self ..).countP_le (clear.lone prior (List.mem_of_mem_filter member))

/-- A prior that overlaps the first box overlaps none of the others. -/
theorem Unambiguous.not_overlaps_of_first (clear : Unambiguous priors (blob :: blobs)) {prior : TrackedBlob}
    (listed : prior ∈ priors) {other : Blob} (member : other ∈ blobs)
    (meets : prior.blob.overlaps blob = true) : prior.blob.overlaps other = false := by
  have few := clear.lone prior listed
  rw [List.countP_cons_of_pos meets] at few
  have missed := List.countP_eq_zero.mp (Nat.le_zero.mp (Nat.le_of_succ_le_succ few))
  exact Bool.eq_false_iff.mpr (missed other member)

/-- Nobody takes the prior of another box away. -/
theorem Unambiguous.priorOf_filter (clear : Unambiguous priors (blob :: blobs)) {other : Blob}
    (member : other ∈ blobs) :
    priorOf (priors.filter (!·.blob.overlaps blob)) other = priorOf priors other := by
  rw [priorOf, List.find?_filter, priorOf]
  refine List.find?_congr fun prior listed => ?_
  cases meets : prior.blob.overlaps blob with
  | false => simp
  | true => simp [clear.not_overlaps_of_first listed member meets]

theorem claims_of_unambiguous (clear : Unambiguous priors blobs) :
    claims priors blobs = blobs.map (priorOf priors) := by
  induction blobs generalizing priors with
  | nil => rfl
  | cons blob blobs ih =>
    rw [claims, eraseP_eq_filter (clear.sole blob List.mem_cons_self), ih clear.tail, List.map_cons]
    refine congrArg _ (List.map_congr_left fun other member => ?_)
    exact clear.priorOf_filter member

theorem unclaimed_of_unambiguous (clear : Unambiguous priors blobs) :
    unclaimed priors blobs = priors.filter fun prior => !blobs.any (prior.blob.overlaps ·) := by
  induction blobs generalizing priors with
  | nil => simp [unclaimed]
  | cons blob blobs ih =>
    rw [unclaimed, eraseP_eq_filter (clear.sole blob List.mem_cons_self), ih clear.tail, List.filter_filter]
    refine List.filter_congr fun prior _ => ?_
    rw [List.any_cons, Bool.not_or, Bool.and_comm]

end Pairs

/-- The entries of a frame that stand for one of its boxes. -/
def arrivals (tracker : Tracker) (candidates : List Blob) : List TrackedBlob :=
  (tracker.advance candidates).tracked.filter (·.matched)

/-- The entries of a frame under an identity of the frame before. -/
def inherited (tracker : Tracker) (candidates : List Blob) : List TrackedBlob :=
  (tracker.arrivals candidates).filter fun entry => !isNew tracker.tracked entry.blob

def appeared (tracker : Tracker) (candidates : List Blob) : List TrackedBlob :=
  (tracker.arrivals candidates).filter fun entry => isNew tracker.tracked entry.blob

/-- The entries of a frame that stand for none of its boxes. -/
def survivors (tracker : Tracker) (candidates : List Blob) : List TrackedBlob :=
  (tracker.advance candidates).tracked.filter (!·.matched)

section Named

variable (priors : List TrackedBlob) (minAge nextId : Nat)

/-- The entries of boxes that take their own priors. -/
def paired (blobs : List Blob) : List TrackedBlob :=
  named minAge nextId (blobs.zip (blobs.map (priorOf priors)))

variable {priors}

theorem paired_cons_some {blob : Blob} {prior : TrackedBlob} (found : priorOf priors blob = some prior)
    (blobs : List Blob) :
    paired priors minAge nextId (blob :: blobs) =
      inherit minAge prior blob :: paired priors minAge nextId blobs := by
  rw [paired, List.map_cons, List.zip_cons_cons, found]
  rfl

theorem paired_cons_none {blob : Blob} (missing : priorOf priors blob = none) (blobs : List Blob) :
    paired priors minAge nextId (blob :: blobs) =
      TrackedBlob.ofBlob blob nextId :: paired priors minAge (nextId + 1) blobs := by
  rw [paired, List.map_cons, List.zip_cons_cons, missing]
  rfl

variable (priors) (blobs : List Blob)

theorem map_blob_paired : (paired priors minAge nextId blobs).map (·.blob) = blobs := by
  rw [paired, map_blob_named, List.map_fst_zip (Nat.le_of_eq (List.length_map _).symm)]

theorem matched_paired : ∀ entry ∈ paired priors minAge nextId blobs, entry.matched = true := by
  induction blobs generalizing nextId with
  | nil => nofun
  | cons blob blobs ih =>
    intro entry member
    cases found : priorOf priors blob with
    | some prior =>
      rw [paired_cons_some _ _ found] at member
      rcases List.mem_cons.mp member with rfl | later
      · rfl
      · exact ih _ entry later
    | none =>
      rw [paired_cons_none _ _ found] at member
      rcases List.mem_cons.mp member with rfl | later
      · rfl
      · exact ih _ entry later

/-- An inherited entry depends on its own box alone. -/
theorem inherited_paired :
    (paired priors minAge nextId blobs).filter (fun entry => !isNew priors entry.blob) =
      blobs.filterMap fun blob => (priorOf priors blob).map (inherit minAge · blob) := by
  induction blobs generalizing nextId with
  | nil => rfl
  | cons blob blobs ih =>
    cases found : priorOf priors blob with
    | some prior =>
      have old : isNew priors (inherit minAge prior blob).blob = false := by simp [isNew, inherit, found]
      rw [paired_cons_some _ _ found, List.filter_cons_of_pos (by simp [old]), ih]
      simp [found]
    | none =>
      have new : isNew priors (TrackedBlob.ofBlob blob nextId).blob = true := by
        simp [isNew, TrackedBlob.ofBlob, found]
      rw [paired_cons_none _ _ found, List.filter_cons_of_neg (by simp [new]), ih]
      simp [found]

/-- The new entries are those of the boxes without a prior, numbered in their order. -/
theorem appeared_paired :
    let entries := (paired priors minAge nextId blobs).filter fun entry => isNew priors entry.blob
    entries.map (·.blob) = blobs.filter (isNew priors) ∧
      entries.map (·.id) = List.range' nextId (blobs.countP (isNew priors)) := by
  intro entries
  induction blobs generalizing nextId with
  | nil => exact ⟨rfl, rfl⟩
  | cons blob blobs ih =>
    cases found : priorOf priors blob with
    | some prior =>
      have old : isNew priors blob = false := by simp [isNew, found]
      simp only [entries]
      rw [paired_cons_some _ _ found, List.filter_cons_of_neg (by simp [inherit, old]),
        List.filter_cons_of_neg (by simp [old]), List.countP_cons_of_neg (by simp [old])]
      exact ih nextId
    | none =>
      have new : isNew priors blob = true := by simp [isNew, found]
      obtain ⟨boxes, numbers⟩ := ih (nextId + 1)
      simp only [entries]
      rw [paired_cons_none _ _ found, List.filter_cons_of_pos (by simp [TrackedBlob.ofBlob, new]),
        List.filter_cons_of_pos new, List.countP_cons_of_pos new, List.map_cons, List.map_cons, boxes,
        numbers, List.range'_succ]
      exact ⟨rfl, rfl⟩

end Named

section Frame

variable {tracker : Tracker} {candidates others : List Blob}

theorem advance_of_unambiguous (clear : Unambiguous tracker.tracked candidates) :
    (tracker.advance candidates).tracked =
        paired tracker.tracked tracker.params.minAge tracker.nextId candidates ++
          ((tracker.tracked.filter fun prior => !candidates.any (prior.blob.overlaps ·)).filter
            (lasts tracker.params.maxAge candidates)).map faded ∧
      (tracker.advance candidates).nextId =
        tracker.nextId + candidates.countP (isNew tracker.tracked) := by
  obtain ⟨entries, nextId⟩ := tracked_advance_described tracker candidates
  have kept : Blob.keepApart [] candidates = candidates := Blob.keepApart_of_apart clear.apart
  rw [kept, claims_of_unambiguous clear] at entries nextId
  rw [unclaimed_of_unambiguous clear] at entries
  refine ⟨?_, ?_⟩
  · rw [entries, paired]
  · rw [nextId, List.count, List.countP_map]
    congr 2
    funext blob
    simp [isNew]

theorem arrivals_of_unambiguous (clear : Unambiguous tracker.tracked candidates) :
    tracker.arrivals candidates =
      paired tracker.tracked tracker.params.minAge tracker.nextId candidates := by
  rw [arrivals, (advance_of_unambiguous clear).1, List.filter_append,
    List.filter_eq_self.mpr (matched_paired _ _ _ _),
    List.filter_eq_nil_iff.mpr, List.append_nil]
  intro entry member
  obtain ⟨_, -, rfl⟩ := List.mem_map.mp member
  exact Bool.false_ne_true

theorem survivors_of_unambiguous (clear : Unambiguous tracker.tracked candidates) :
    tracker.survivors candidates =
      ((tracker.tracked.filter fun prior => !candidates.any (prior.blob.overlaps ·)).filter
        (lasts tracker.params.maxAge candidates)).map faded := by
  rw [survivors, (advance_of_unambiguous clear).1, List.filter_append, List.filter_eq_nil_iff.mpr,
    List.nil_append, List.filter_eq_self.mpr]
  · intro entry member
    obtain ⟨_, -, rfl⟩ := List.mem_map.mp member
    rfl
  · intro entry member
    simp [matched_paired _ _ _ _ entry member]

theorem any_perm (permuted : candidates.Perm others) (wanted : Blob → Bool) :
    candidates.any wanted = others.any wanted := by
  rw [Bool.eq_iff_iff, List.any_eq_true, List.any_eq_true]
  simp only [permuted.mem_iff]

theorem lasts_perm (permuted : candidates.Perm others) (maxAge : Nat) :
    lasts maxAge candidates = lasts maxAge others := by
  funext prior
  rw [lasts, lasts, any_perm permuted]

end Frame

/-- If boxes and priors overlap in pairs, the boxes of a frame may come in any order: under inherited identities
the same entries are found, the same carried entries survive in the same order, the same boxes are new, and the
counter ends with the same value. The entries of boxes stand in the order of the boxes, and the new ones among
them are numbered in this order. -/
theorem advance_reordered {tracker : Tracker} {candidates others : List Blob}
    (clear : Unambiguous tracker.tracked candidates) (permuted : candidates.Perm others) :
    (tracker.advance others).tracked = tracker.arrivals others ++ tracker.survivors others ∧
    (tracker.arrivals others).map (·.blob) = others ∧
    (tracker.inherited others).Perm (tracker.inherited candidates) ∧
    (∀ entry ∈ tracker.inherited others, ∃ prior ∈ tracker.tracked,
      prior.blob.overlaps entry.blob = true ∧
        entry = ⟨entry.blob, prior.id, 0, true, min (prior.maturity + 1) tracker.params.minAge⟩) ∧
    tracker.survivors others = tracker.survivors candidates ∧
    ((tracker.appeared others).map (·.blob)).Perm ((tracker.appeared candidates).map (·.blob)) ∧
    (tracker.appeared others).map (·.id) =
      List.range' tracker.nextId (tracker.appeared candidates).length ∧
    (tracker.advance others).nextId = (tracker.advance candidates).nextId := by
  have clear' := clear.perm permuted
  have inherits {blobs : List Blob} (clear : Unambiguous tracker.tracked blobs) :
      tracker.inherited blobs = blobs.filterMap fun blob =>
        (priorOf tracker.tracked blob).map (inherit tracker.params.minAge · blob) := by
    rw [inherited, arrivals_of_unambiguous clear, inherited_paired]
  have appears {blobs : List Blob} (clear : Unambiguous tracker.tracked blobs) :
      (tracker.appeared blobs).map (·.blob) = blobs.filter (isNew tracker.tracked) ∧
        (tracker.appeared blobs).map (·.id) =
          List.range' tracker.nextId (blobs.countP (isNew tracker.tracked)) := by
    rw [appeared, arrivals_of_unambiguous clear]
    exact appeared_paired ..
  refine ⟨?_, ?_, ?_, fun entry member => ?_, ?_, ?_, ?_, ?_⟩
  · rw [arrivals_of_unambiguous clear', survivors_of_unambiguous clear', (advance_of_unambiguous clear').1]
  · rw [arrivals_of_unambiguous clear', map_blob_paired]
  · rw [inherits clear, inherits clear']
    exact permuted.symm.filterMap _
  · rw [inherits clear'] at member
    obtain ⟨blob, -, found⟩ := List.mem_filterMap.mp member
    obtain ⟨prior, first, rfl⟩ := Option.map_eq_some_iff.mp found
    have meets := List.find?_some first
    exact ⟨prior, List.mem_of_find?_eq_some first, meets, rfl⟩
  · rw [survivors_of_unambiguous clear, survivors_of_unambiguous clear', lasts_perm permuted]
    simp only [any_perm permuted]
  · rw [(appears clear).1, (appears clear').1]
    exact permuted.symm.filter _
  · have count : (tracker.appeared candidates).length = candidates.countP (isNew tracker.tracked) := by
      rw [← List.length_map (·.blob), (appears clear).1, List.countP_eq_length_filter]
    rw [(appears clear').2, count, permuted.countP_eq]
  · rw [(advance_of_unambiguous clear).2, (advance_of_unambiguous clear').2, permuted.countP_eq]

/-- Two carried boxes and a third that nothing will meet. -/
def meeting : Tracker := Tracker.standard.advance [⟨10, 10, 9, 9⟩, ⟨40, 40, 9, 9⟩, ⟨70, 10, 9, 9⟩]

/-- Boxes for the first two, and two new ones. -/
def mixed : List Blob := [⟨41, 41, 9, 9⟩, ⟨10, 70, 9, 9⟩, ⟨11, 9, 9, 9⟩, ⟨90, 90, 8, 8⟩]

theorem advance_reordered_meeting :
    Unambiguous meeting.tracked mixed ∧ mixed.Perm mixed.reverse ∧
    (meeting.advance mixed).tracked.map (·.id) = [2, 4, 1, 5, 3] ∧
    (meeting.advance mixed.reverse).tracked.map (·.id) = [4, 1, 5, 2, 3] ∧
    (meeting.inherited mixed.reverse).Perm (meeting.inherited mixed) ∧
    meeting.survivors mixed.reverse = meeting.survivors mixed ∧
    (meeting.advance mixed.reverse).nextId = (meeting.advance mixed).nextId := by
  have clear : Unambiguous meeting.tracked mixed := ⟨by decide, by decide, by decide⟩
  have permuted : mixed.Perm mixed.reverse := (List.reverse_perm mixed).symm
  obtain ⟨-, -, inherited, -, survivors, -, -, nextId⟩ := advance_reordered clear permuted
  exact ⟨clear, permuted, by decide, by decide, inherited, survivors, nextId⟩

end Tracker
end TouchTracking
