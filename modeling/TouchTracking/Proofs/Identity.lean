import Mathlib.Data.List.Nodup
import TouchTracking.Proofs.Frame
import TouchTracking.Proofs.Runs

/-! Identities. While a frame is matched, an identity is either on an accepted box or on a carried box
that nobody has taken, and on one of them only; taking a carried box moves its identity from the one
side to the other, and only the counter brings new ones. -/
namespace TouchTracking.Tracker

def ids (tracker : Tracker) : List Nat := tracker.tracked.map (·.id)

@[simp] theorem ids_clear (tracker : Tracker) : tracker.clear.ids = [] := rfl

/-- The entries of a frame that can still be told apart by their identity. -/
def Matching.held (matching : Matching) : List TrackedBlob :=
  matching.accepted ++ matching.arena.entries.filter (!·.matched)

def Matching.ids (matching : Matching) : List Nat := matching.held.map (·.id)

/-- One box of the frame moves an identity or brings the next new one. -/
theorem ids_offered {minAge : Nat} {blob : Blob} {matching next : Matching}
    (offered : Offered minAge blob matching next) :
    next.ids.Perm matching.ids ∧ next.nextId = matching.nextId ∨
    next.ids.Perm (matching.nextId :: matching.ids) ∧ next.nextId = matching.nextId + 1 := by
  cases offered with
  | discarded _ same =>
    rw [same]
    exact .inl ⟨.refl _, rfl⟩
  | inherited prior before after _ carried claims _ arena accepted nextId =>
    refine .inl ⟨?_, nextId⟩
    simp only [Matching.ids, Matching.held, arena, accepted, carried, List.filter_append,
      List.filter_cons, claims.1, taken, Bool.not_false, Bool.not_true, if_true, if_false,
      Bool.false_eq_true, List.map_append, List.map_cons, List.append_assoc, List.singleton_append,
      inherit]
    exact List.perm_middle.symm.append_left _
  | appeared _ _ arena accepted nextId =>
    refine .inr ⟨?_, nextId⟩
    simp only [Matching.ids, Matching.held, arena, accepted, List.map_append, List.map_cons,
      List.append_assoc, List.singleton_append, TrackedBlob.ofBlob]
    exact List.perm_middle

/-- Identities in play while a frame of the tracker is matched. -/
structure Issued (tracker : Tracker) (matching : Matching) : Prop where
  distinct : matching.ids.Nodup
  known : ∀ id ∈ matching.ids, id ∈ tracker.ids ∨ tracker.nextId ≤ id
  below : ∀ id ∈ matching.ids, id < matching.nextId
  grown : tracker.nextId ≤ matching.nextId

/-- No two tracked boxes share an identity, and the next new one is above them all. -/
structure Numbered (tracker : Tracker) : Prop where
  distinct : tracker.ids.Nodup
  positive : ∀ id ∈ tracker.ids, 1 ≤ id
  below : ∀ id ∈ tracker.ids, id < tracker.nextId
  counted : 1 ≤ tracker.nextId

/-- Between two moments the counter does not fall, and what was not tracked before has an identity
from the counter. -/
structure Grown (before after : Tracker) : Prop where
  nextId : before.nextId ≤ after.nextId
  known : ∀ id ∈ after.ids, id ∈ before.ids ∨ before.nextId ≤ id

theorem ids_opening (tracker : Tracker) : tracker.opening.ids = tracker.ids := by
  have kept : tracker.opening.arena.entries.filter (!·.matched) = tracker.opening.arena.entries := by
    rw [List.filter_eq_self, entries_opening]
    intro entry member
    obtain ⟨_, _, rfl⟩ := List.mem_map.mp member
    rfl
  rw [Matching.ids, Matching.held, kept, entries_opening, ids]
  simp only [opening, List.nil_append, List.map_map]
  rfl

theorem issued_offered {tracker : Tracker} {minAge : Nat} {blob : Blob} {matching next : Matching}
    (issued : Issued tracker matching) (offered : Offered minAge blob matching next) :
    Issued tracker next := by
  rcases ids_offered offered with ⟨moved, nextId⟩ | ⟨brought, nextId⟩
  · refine ⟨moved.nodup_iff.mpr issued.distinct, ?_, ?_, nextId ▸ issued.grown⟩
    · intro id member
      exact issued.known id (moved.mem_iff.mp member)
    · intro id member
      rw [nextId]
      exact issued.below id (moved.mem_iff.mp member)
  · have unused : matching.nextId ∉ matching.ids := fun member =>
      Nat.lt_irrefl _ (issued.below _ member)
    refine ⟨brought.nodup_iff.mpr (List.nodup_cons.mpr ⟨unused, issued.distinct⟩), ?_, ?_,
      nextId ▸ Nat.le_succ_of_le issued.grown⟩
    · intro id member
      rcases List.mem_cons.mp (brought.mem_iff.mp member) with rfl | member
      · exact .inr issued.grown
      · exact issued.known id member
    · intro id member
      rw [nextId]
      rcases List.mem_cons.mp (brought.mem_iff.mp member) with rfl | member
      · exact Nat.lt_succ_self _
      · exact Nat.lt_succ_of_lt (issued.below id member)

theorem issued_opening {tracker : Tracker} (numbered : Numbered tracker) :
    Issued tracker tracker.opening where
  distinct := by rw [ids_opening]; exact numbered.distinct
  known := by rw [ids_opening]; exact fun _ member => .inl member
  below := by rw [ids_opening]; exact numbered.below
  grown := Nat.le_refl _

theorem issued_matched {tracker : Tracker} (numbered : Numbered tracker) (candidates : List Blob) :
    Issued tracker (tracker.matched candidates) :=
  matched_invariant _ tracker candidates (issued_opening numbered)
    fun _ _ _ issued offered => issued_offered issued offered

theorem ids_decay_sublist (maxAge : Nat) (accepted entries : List TrackedBlob) :
    ((entries.filterMap (decay maxAge accepted)).map (·.id)).Sublist
      ((entries.filter (!·.matched)).map (·.id)) := by
  induction entries with
  | nil => exact .slnil
  | cons prior entries ih =>
    cases aged : decay maxAge accepted prior with
    | none =>
      rw [List.filterMap_cons_none aged]
      exact ih.trans (((List.sublist_cons_self prior entries).filter _).map _)
    | some entry =>
      obtain ⟨free, -, -, -, rfl⟩ := (decay_eq_some_iff ..).mp aged
      rw [List.filterMap_cons_some aged, List.filter_cons_of_pos (by simp [free])]
      exact ih.cons_cons _

theorem ids_advance_sublist (tracker : Tracker) (candidates : List Blob) :
    (tracker.advance candidates).ids.Sublist (tracker.matched candidates).ids := by
  rw [ids, tracked_advance, Matching.ids, Matching.held, List.map_append, List.map_append]
  exact (ids_decay_sublist ..).append_left _

theorem advance_grown {tracker : Tracker} (numbered : Numbered tracker) (candidates : List Blob) :
    Grown tracker (tracker.advance candidates) where
  nextId := (issued_matched numbered candidates).grown
  known id member :=
    (issued_matched numbered candidates).known id ((ids_advance_sublist ..).subset member)

theorem advance_numbered {tracker : Tracker} (numbered : Numbered tracker)
    (candidates : List Blob) : Numbered (tracker.advance candidates) where
  distinct := (issued_matched numbered candidates).distinct.sublist (ids_advance_sublist ..)
  positive id member := by
    rcases (advance_grown numbered candidates).known id member with old | new
    · exact numbered.positive id old
    · exact Nat.le_trans numbered.counted new
  below id member :=
    (issued_matched numbered candidates).below id ((ids_advance_sublist ..).subset member)
  counted := Nat.le_trans numbered.counted (advance_grown numbered candidates).nextId

theorem performed_numbered {tracker next : Tracker} {touches : Option (List Touch)}
    (numbered : Numbered tracker) (performed : Performed tracker touches next) :
    Numbered next := by
  cases performed with
  | refused => exact numbered
  | configured => exact ⟨numbered.distinct, numbered.positive, numbered.below, numbered.counted⟩
  | cleared => exact ⟨.nil, by simp, by simp, numbered.counted⟩
  | advanced candidates => exact advance_numbered numbered candidates

theorem performed_grown {tracker next : Tracker} {touches : Option (List Touch)}
    (numbered : Numbered tracker) (performed : Performed tracker touches next) :
    Grown tracker next := by
  cases performed with
  | refused => exact ⟨Nat.le_refl _, fun _ => .inl⟩
  | configured => exact ⟨Nat.le_refl _, fun _ => .inl⟩
  | cleared => exact ⟨Nat.le_refl _, by simp⟩
  | advanced candidates => exact advance_grown numbered candidates

theorem Fresh.numbered {tracker : Tracker} (fresh : Fresh tracker) : Numbered tracker := by
  obtain ⟨tracked, nextId⟩ := fresh.blank
  refine ⟨?_, ?_, ?_, ?_⟩ <;> simp [ids, tracked, nextId]

theorem run_numbered {tracker : Tracker} (numbered : Numbered tracker) (actions : List Action) :
    Numbered (tracker.run actions) :=
  run_invariant _ (fun _ _ _ => performed_numbered) numbered actions

/-- Touches are shown in the order of the tracked list, some of them left out. -/
theorem ids_touches_sublist (tracker : Tracker) (width height : Nat) :
    ((tracker.touches width height).map (·.id)).Sublist tracker.ids := by
  unfold touches
  split
  · exact List.nil_sublist _
  · rw [List.map_map]
    exact (List.filter_sublist (l := tracker.tracked)).map _

theorem ids_shown_sublist {tracker next : Tracker} {shown : List Touch}
    (performed : Performed tracker (some shown) next) :
    (shown.map (·.id)).Sublist next.ids := by
  cases performed with
  | advanced => exact ids_touches_sublist ..

/-- In every reachable state the identities are distinct and below the counter; the counter never
falls; and the touches that a request hands back show distinct identities, each of a box that is
tracked from then on. -/
theorem identities_distinct {tracker : Tracker} (fresh : Fresh tracker) (actions : List Action) :
    (tracker.run actions).ids.Nodup ∧
    (∀ entry ∈ (tracker.run actions).tracked,
      1 ≤ entry.id ∧ entry.id < (tracker.run actions).nextId) ∧
    (∀ action, (tracker.run actions).nextId ≤ ((tracker.run actions).perform action).2.nextId) ∧
    ∀ action shown, ((tracker.run actions).perform action).1 = some shown →
      (shown.map (·.id)).Nodup ∧
      ∀ touch ∈ shown, ∃ entry ∈ ((tracker.run actions).perform action).2.tracked,
        entry.id = touch.id := by
  have numbered := run_numbered fresh.numbered actions
  refine ⟨numbered.distinct, fun entry member => ?_, fun action => ?_, fun action shown handed => ?_⟩
  · have known := List.mem_map_of_mem (f := (·.id)) member
    exact ⟨numbered.positive _ known, numbered.below _ known⟩
  · exact (performed_grown numbered (performed ..)).nextId
  · have step := performed (tracker.run actions) action
    have later := performed_numbered numbered step
    rw [handed] at step
    have shown_ids := ids_shown_sublist step
    refine ⟨later.distinct.sublist shown_ids, fun touch member => ?_⟩
    exact List.mem_map.mp (shown_ids.subset (List.mem_map_of_mem member))

/-- A box is lost and another comes; after the tracker has forgotten both, a third comes. -/
def lostBoxes : List Action :=
  [.update [⟨15, 15, 10, 10⟩] 64 64, .setParams ⟨20, 10, 2, 3⟩, .update [⟨45, 45, 10, 10⟩] 64 64,
    .clear, .update [⟨15, 15, 10, 10⟩, ⟨15, 15, 10, 10⟩] 64 64, .update [⟨45, 45, 9, 9⟩] 64 64]

theorem identities_distinct_lostBoxes :
    Fresh standard ∧ (standard.run lostBoxes).ids = [4, 3] ∧
    (standard.run lostBoxes).ids.Nodup ∧
    (∀ entry ∈ (standard.run lostBoxes).tracked,
      1 ≤ entry.id ∧ entry.id < (standard.run lostBoxes).nextId) ∧
    (∀ action, (standard.run lostBoxes).nextId ≤
      ((standard.run lostBoxes).perform action).2.nextId) ∧
    ∀ action shown, ((standard.run lostBoxes).perform action).1 = some shown →
      (shown.map (·.id)).Nodup ∧
      ∀ touch ∈ shown, ∃ entry ∈ ((standard.run lostBoxes).perform action).2.tracked,
        entry.id = touch.id :=
  ⟨.standard, by decide, identities_distinct .standard lostBoxes⟩

end TouchTracking.Tracker
