import TouchTracking.Proofs.Frame
import TouchTracking.Proofs.Words

/-! One frame as a description. The boxes that count are those that overlap no earlier one that counts;
each of them in turn takes the first prior entry that overlaps it and that no earlier one has taken; the
priors that nobody takes fade. The tracker gets there by marking slots, refusing boxes as they come and
putting entries in front of others; this comes to the same. -/
namespace TouchTracking

/-- Those of the boxes that overlap no box kept before them, when some are kept already. -/
def Blob.keepApart (kept : List Blob) : List Blob → List Blob
  | [] => []
  | blob :: rest =>
    if kept.any (·.overlaps blob) then keepApart kept rest
    else blob :: keepApart (kept ++ [blob]) rest

namespace Tracker

/-- The prior that each of the boxes takes: the first one that overlaps it and is not taken yet. -/
def claims (priors : List TrackedBlob) : List Blob → List (Option TrackedBlob)
  | [] => []
  | blob :: rest =>
    priors.find? (·.blob.overlaps blob) :: claims (priors.eraseP (·.blob.overlaps blob)) rest

/-- The priors that none of the boxes takes. -/
def unclaimed (priors : List TrackedBlob) : List Blob → List TrackedBlob
  | [] => priors
  | blob :: rest => unclaimed (priors.eraseP (·.blob.overlaps blob)) rest

/-- The entries of boxes, each under the identity of the prior it takes or under the next new one. -/
def named (minAge : Nat) : (nextId : Nat) → List (Blob × Option TrackedBlob) → List TrackedBlob
  | _, [] => []
  | nextId, (blob, some prior) :: rest =>
    ⟨blob, prior.id, 0, true, min (prior.maturity + 1) minAge⟩ :: named minAge nextId rest
  | nextId, (blob, none) :: rest => ⟨blob, nextId, 0, true, 0⟩ :: named minAge (nextId + 1) rest

def lasts (maxAge : Nat) (accepted : List Blob) (prior : TrackedBlob) : Bool :=
  prior.age + 1 ≤ maxAge && !prior.blob.shrunk.isEmpty &&
    !accepted.any (·.overlaps prior.blob.shrunk)

def faded (prior : TrackedBlob) : TrackedBlob :=
  ⟨prior.blob.shrunk, prior.id, prior.age + 1, false, prior.maturity⟩

/-- Whether a prior that nobody takes remains beside the given boxes: it is young enough, one pixel less on either
side leaves something of it, and this overlaps none of them. -/
def remains (maxAge : Nat) (accepted : List Blob) (prior : TrackedBlob) : Bool :=
  prior.age + 1 ≤ maxAge && !prior.blob.lessened.isEmpty && !accepted.any (·.overlaps prior.blob.lessened)

def remnant (prior : TrackedBlob) : TrackedBlob :=
  ⟨prior.blob.lessened, prior.id, prior.age + 1, false, prior.maturity⟩

/-- The carried entries that nobody has taken so far. -/
def Matching.free (matching : Matching) : List TrackedBlob :=
  matching.arena.entries.filter (!·.matched)

def Matching.boxes (matching : Matching) : List Blob := matching.accepted.map (·.blob)

theorem collides_eq (accepted : List TrackedBlob) (blob : Blob) :
    collides accepted blob = (accepted.map (·.blob)).any (·.overlaps blob) := by
  rw [List.any_map]
  rfl

/-- What one box does to the entries that are free, when it is not refused. -/
inductive Placed (minAge : Nat) (blob : Blob) (matching next : Matching) : Prop
  | inherited (prior : TrackedBlob)
      (found : matching.free.find? (·.blob.overlaps blob) = some prior)
      (free : next.free = matching.free.eraseP (·.blob.overlaps blob))
      (accepted : next.accepted = matching.accepted ++ [inherit minAge prior blob])
      (nextId : next.nextId = matching.nextId)
  | appeared (missing : matching.free.find? (·.blob.overlaps blob) = none)
      (free : next.free = matching.free.eraseP (·.blob.overlaps blob))
      (accepted : next.accepted = matching.accepted ++ [TrackedBlob.ofBlob blob matching.nextId])
      (nextId : next.nextId = matching.nextId + 1)

theorem placed {minAge : Nat} {matching : Matching} {blob : Blob}
    (clear : collides matching.accepted blob = false) :
    Placed minAge blob matching (matching.offer minAge blob) := by
  cases offered minAge matching blob with
  | discarded meets => exact absurd (clear.symm.trans meets) Bool.false_ne_true
  | inherited prior before after _ carried claims first arena accepted nextId =>
    have passed : ∀ entry ∈ before.filter (!·.matched), ¬ entry.blob.overlaps blob = true := by
      intro entry member meets
      obtain ⟨place, unmatched⟩ := List.mem_filter.mp member
      exact first entry place ⟨by simpa using unmatched, meets⟩
    have free : matching.free =
        before.filter (!·.matched) ++ prior :: after.filter (!·.matched) := by
      simp [Matching.free, carried, claims.1]
    have left : (matching.offer minAge blob).free =
        before.filter (!·.matched) ++ after.filter (!·.matched) := by
      simp [Matching.free, arena, taken]
    refine .inherited prior ?_ ?_ accepted nextId
    · rw [free, List.find?_append, List.find?_eq_none.mpr passed, Option.none_or]
      simp [claims.2]
    · rw [free, List.eraseP_append_right _ passed, left]
      simp [claims.2]
  | appeared _ none arena accepted nextId =>
    have missed : ∀ entry ∈ matching.free, ¬ entry.blob.overlaps blob = true := by
      intro entry member meets
      obtain ⟨place, unmatched⟩ := List.mem_filter.mp member
      exact none entry place ⟨by simpa using unmatched, meets⟩
    refine .appeared (List.find?_eq_none.mpr missed) ?_ accepted nextId
    rw [List.eraseP_of_forall_not missed, Matching.free, arena, Matching.free]

theorem Placed.boxes {minAge : Nat} {blob : Blob} {matching next : Matching}
    (placed : Placed minAge blob matching next) : next.boxes = matching.boxes ++ [blob] := by
  cases placed with
  | inherited _ _ _ accepted => simp [Matching.boxes, accepted, inherit]
  | appeared _ _ accepted => simp [Matching.boxes, accepted, TrackedBlob.ofBlob]

theorem offer_collided {minAge : Nat} {matching : Matching} {blob : Blob}
    (meets : collides matching.accepted blob = true) : matching.offer minAge blob = matching :=
  if_pos meets

/-- A box that is refused might as well not have been there. -/
theorem foldl_offer_keepApart (minAge : Nat) (matching : Matching) (candidates : List Blob) :
    candidates.foldl (Matching.offer minAge) matching =
      (Blob.keepApart matching.boxes candidates).foldl (Matching.offer minAge) matching := by
  induction candidates generalizing matching with
  | nil => rfl
  | cons blob candidates ih =>
    rw [List.foldl_cons, Blob.keepApart, Matching.boxes, ← collides_eq]
    cases meets : collides matching.accepted blob with
    | true =>
      rw [if_pos rfl, offer_collided meets]
      exact ih matching
    | false =>
      rw [if_neg Bool.false_ne_true, List.foldl_cons, ih, (placed meets).boxes]
      rfl

/-- The boxes of a frame one after the other, from any moment of the frame on. -/
theorem foldl_offer_described (minAge : Nat) (matching : Matching) (candidates : List Blob) :
    let accepted := Blob.keepApart matching.boxes candidates
    let last := candidates.foldl (Matching.offer minAge) matching
    last.accepted = matching.accepted ++
        named minAge matching.nextId (accepted.zip (claims matching.free accepted)) ∧
      last.free = unclaimed matching.free accepted ∧
      last.nextId = matching.nextId + (claims matching.free accepted).count none := by
  induction candidates generalizing matching with
  | nil => simp [Blob.keepApart, claims, unclaimed, named]
  | cons blob candidates ih =>
    simp only [List.foldl_cons, Blob.keepApart]
    rw [Matching.boxes, ← collides_eq]
    cases meets : collides matching.accepted blob with
    | true =>
      rw [if_pos rfl, offer_collided meets]
      exact ih matching
    | false =>
      have step : Placed minAge blob matching (matching.offer minAge blob) := placed meets
      obtain ⟨accepted, free, nextId⟩ := ih (matching.offer minAge blob)
      rw [step.boxes] at accepted free nextId
      rw [if_neg Bool.false_ne_true, accepted, free, nextId]
      cases step with
      | inherited prior found left taken kept =>
        simp [claims, unclaimed, named, found, left, taken, kept, inherit, Matching.boxes]
      | appeared missing left taken kept =>
        simp [claims, unclaimed, named, missing, left, taken, kept, TrackedBlob.ofBlob, Matching.boxes]
        omega

theorem decay_eq (maxAge : Nat) (accepted : List TrackedBlob) (prior : TrackedBlob) :
    decay maxAge accepted prior =
      if !prior.matched && lasts maxAge (accepted.map (·.blob)) prior then some (faded prior)
      else none := by
  obtain ⟨blob, id, age, matched, maturity⟩ := prior
  cases matched with
  | true => simp [decay]
  | false =>
    have limit : decide (age + 1 ≤ maxAge) = !decide (maxAge < age + 1) := by
      rw [← decide_not, decide_eq_decide]
      omega
    simp only [decay, lasts, faded, collides_eq, limit, Bool.not_false, Bool.true_and,
      Bool.false_eq_true, if_false]
    cases decide (maxAge < age + 1) <;> cases blob.shrunk.isEmpty <;>
      cases (accepted.map (·.blob)).any (·.overlaps blob.shrunk) <;> rfl

/-- What survives of the carried entries are those that nobody has taken and that last. -/
theorem filterMap_decay (maxAge : Nat) (matching : Matching) :
    matching.arena.entries.filterMap (decay maxAge matching.accepted) =
      (matching.free.filter (lasts maxAge matching.boxes)).map faded := by
  rw [Matching.free, List.filter_filter, ← List.filterMap_eq_map, List.filterMap_filter]
  congr 1
  funext prior
  rw [decay_eq, Bool.and_comm]
  rfl

theorem length_claims (priors : List TrackedBlob) (blobs : List Blob) :
    (claims priors blobs).length = blobs.length := by
  induction blobs generalizing priors with
  | nil => rfl
  | cons blob blobs ih => rw [claims, List.length_cons, ih, List.length_cons]

theorem map_blob_named (minAge nextId : Nat) (pairs : List (Blob × Option TrackedBlob)) :
    (named minAge nextId pairs).map (·.blob) = pairs.map Prod.fst := by
  induction pairs generalizing nextId with
  | nil => rfl
  | cons pair pairs ih => obtain ⟨blob, _ | prior⟩ := pair <;> simp [named, ih]

section Marks

variable (priors : List TrackedBlob) (blobs : List Blob)

theorem claims_unmarked :
    claims (priors.map unmarked) blobs = (claims priors blobs).map (Option.map unmarked) := by
  induction blobs generalizing priors with
  | nil => rfl
  | cons blob blobs ih => rw [claims, List.find?_map, List.eraseP_map, ih]; rfl

theorem unclaimed_unmarked :
    unclaimed (priors.map unmarked) blobs = (unclaimed priors blobs).map unmarked := by
  induction blobs generalizing priors with
  | nil => rfl
  | cons blob blobs ih => rw [unclaimed, List.eraseP_map, ih]; rfl

theorem named_unmarked (minAge nextId : Nat) (taken : List (Option TrackedBlob)) :
    named minAge nextId (blobs.zip (taken.map (Option.map unmarked))) =
      named minAge nextId (blobs.zip taken) := by
  induction blobs generalizing nextId taken with
  | nil => rfl
  | cons blob blobs ih =>
    cases taken with
    | nil => rfl
    | cons prior taken => cases prior <;> simp [named, unmarked, ih]

theorem count_unmarked (taken : List (Option TrackedBlob)) :
    (taken.map (Option.map unmarked)).count none = taken.count none := by
  induction taken with
  | nil => rfl
  | cons prior taken ih => cases prior <;> simp [ih]

theorem faded_unmarked (maxAge : Nat) :
    ((priors.map unmarked).filter (lasts maxAge blobs)).map faded =
      (priors.filter (lasts maxAge blobs)).map faded := by
  rw [List.filter_map, List.map_map]
  rfl

end Marks

theorem free_opening (tracker : Tracker) : tracker.opening.free = tracker.tracked.map unmarked := by
  rw [Matching.free, List.filter_eq_self.mpr, entries_opening]
  · rfl
  · intro entry member
    rw [entries_opening] at member
    obtain ⟨_, -, rfl⟩ := List.mem_map.mp member
    rfl

theorem advance_eq (tracker : Tracker) (candidates : List Blob) :
    tracker.advance candidates =
      { tracker with
        arena := ((tracker.matched candidates).arena.filterMapEntries
          (decay tracker.params.maxAge (tracker.matched candidates).accepted)).endFrame
            (tracker.matched candidates).accepted
        nextId := (tracker.matched candidates).nextId } := rfl

/-- After a frame: the boxes kept apart in their order, under inherited and new identities, then the
priors that nobody took and that last, in their order. -/
theorem tracked_advance_described (tracker : Tracker) (candidates : List Blob) :
    let accepted := Blob.keepApart [] candidates
    let taken := claims tracker.tracked accepted
    (tracker.advance candidates).tracked =
        named tracker.params.minAge tracker.nextId (accepted.zip taken) ++
          ((unclaimed tracker.tracked accepted).filter
            (lasts tracker.params.maxAge accepted)).map faded ∧
      (tracker.advance candidates).nextId = tracker.nextId + taken.count none := by
  intro accepted taken
  obtain ⟨entries, free, nextId⟩ :=
    foldl_offer_described tracker.params.minAge tracker.opening candidates
  rw [free_opening] at entries free nextId
  have placed : (tracker.matched candidates).accepted =
      named tracker.params.minAge tracker.nextId (accepted.zip taken) := by
    rw [matched, entries, claims_unmarked, named_unmarked]
    rfl
  have boxes : (tracker.matched candidates).boxes = accepted := by
    rw [Matching.boxes, placed, map_blob_named, List.map_fst_zip (Nat.le_of_eq (length_claims ..).symm)]
  constructor
  · rw [tracked_advance, filterMap_decay, boxes, matched, free, unclaimed_unmarked, faded_unmarked,
      ← matched, placed]
    rfl
  · rw [advance_eq, matched, nextId, claims_unmarked, count_unmarked]
    rfl

/-- Boxes that are refused leave no trace in the tracker. -/
theorem advance_keepApart (tracker : Tracker) (candidates : List Blob) :
    tracker.advance (Blob.keepApart [] candidates) = tracker.advance candidates := by
  have same : tracker.matched (Blob.keepApart [] candidates) = tracker.matched candidates :=
    (foldl_offer_keepApart tracker.params.minAge tracker.opening candidates).symm
  rw [advance_eq, advance_eq, same]

theorem map_faded_of_shrinkable {priors : List TrackedBlob} (shrinkable : ∀ prior ∈ priors, prior.blob.Shrinkable)
    (maxAge : Nat) (accepted : List Blob) :
    (priors.filter (lasts maxAge accepted)).map faded =
      (priors.filter (remains maxAge accepted)).map remnant := by
  have alike : priors.filter (lasts maxAge accepted) = priors.filter (remains maxAge accepted) :=
    List.filter_congr fun prior member => by rw [lasts, (shrinkable prior member).shrunk_eq, remains]
  rw [alike]
  refine List.map_congr_left fun prior member => ?_
  rw [faded, (shrinkable prior (List.mem_of_mem_filter member)).shrunk_eq, remnant]

theorem unclaimed_sublist (priors : List TrackedBlob) (blobs : List Blob) :
    (unclaimed priors blobs).Sublist priors := by
  induction blobs generalizing priors with
  | nil => exact .refl _
  | cons blob blobs ih => exact (ih _).trans List.eraseP_sublist

/-- A frame of the tracker does what its description says, whatever boxes are offered, and a box that is refused
leaves no trace in the tracker and in its touches. The boxes that count come first, in their order and each under
the identity of its prior or under a new one; of the priors that nobody takes those are left behind them that are
young enough, of which something remains, and of which the remains overlap none of the boxes that count; the
remains lie around the same centre and are one pixel less on either side. -/
theorem advance_described (tracker : Tracker) (candidates : List Blob)
    (shrinkable : ∀ prior ∈ tracker.tracked, prior.blob.Shrinkable) :
    let accepted := Blob.keepApart [] candidates
    let taken := claims tracker.tracked accepted
    taken.length = accepted.length ∧
      (tracker.advance candidates).tracked =
        named tracker.params.minAge tracker.nextId (accepted.zip taken) ++
          ((unclaimed tracker.tracked accepted).filter (remains tracker.params.maxAge accepted)).map remnant ∧
      (tracker.advance candidates).nextId = tracker.nextId + taken.count none ∧
      (tracker.advance candidates).params = tracker.params ∧
      (tracker.advance candidates).detector = tracker.detector ∧
      ∀ width height, tracker.update candidates width height = tracker.update accepted width height := by
  intro accepted taken
  obtain ⟨entries, nextId⟩ := tracked_advance_described tracker candidates
  rw [map_faded_of_shrinkable fun prior member => shrinkable prior ((unclaimed_sublist ..).subset member)] at entries
  refine ⟨length_claims .., entries, nextId, rfl, rfl, fun width height => ?_⟩
  rw [update, update, advance_keepApart]

/-- Four boxes are tracked: one is found again, one is left over, one vanishes and one is too old. -/
def busy : Tracker :=
  { standard with
    arena := ⟨[some ⟨⟨5, 5, 10, 10⟩, 1, 0, true, 1⟩, some ⟨⟨40, 40, 9, 8⟩, 2, 2, false, 0⟩,
      some ⟨⟨20, 20, 1, 9⟩, 3, 0, true, 0⟩, some ⟨⟨60, 60, 8, 8⟩, 4, 3, false, 2⟩]⟩
    nextId := 5 }

/-- A box over a tracked one, one that overlaps it and is refused, and one beside all others. -/
def newcomers : List Blob := [⟨6, 6, 10, 10⟩, ⟨7, 7, 9, 9⟩, ⟨10, 50, 8, 9⟩]

theorem advance_described_busy :
    (∀ prior ∈ busy.tracked, prior.blob.Shrinkable) ∧
    Blob.keepApart [] newcomers = [⟨6, 6, 10, 10⟩, ⟨10, 50, 8, 9⟩] ∧
    (busy.advance newcomers).tracked =
      [⟨⟨6, 6, 10, 10⟩, 1, 0, true, 2⟩, ⟨⟨10, 50, 8, 9⟩, 5, 0, true, 0⟩, ⟨⟨40, 40, 8, 7⟩, 2, 3, false, 0⟩] ∧
    (busy.advance newcomers).nextId = 6 := by
  have shrinkable : ∀ prior ∈ busy.tracked, prior.blob.Shrinkable := by decide
  obtain ⟨-, tracked, nextId, -⟩ := advance_described busy newcomers shrinkable
  exact ⟨shrinkable, by decide, tracked.trans (by decide), nextId.trans (by decide)⟩

/-- A box whose width is the least word. -/
def least : Blob := ⟨0, 0, -2 ^ 31, 5⟩

/-- One less than the least word is the greatest one: a prior of which nothing should remain is carried on and is
wider than any other. -/
theorem advance_widens_least :
    (standard.advance [least]).tracked = [⟨least, 1, 0, true, 0⟩] ∧ least.lessened.isEmpty = true ∧
    ((standard.advance [least]).advance []).tracked = [⟨⟨0, 0, 2 ^ 31 - 1, 4⟩, 1, 1, false, 0⟩] := by
  decide

end Tracker
end TouchTracking
