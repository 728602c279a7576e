import Mathlib.Data.List.TakeWhile
import TouchTracking.Proofs.Parameters
import TouchTracking.Proofs.Succession

/-! What maturity counts. The maturity of an entry is carried along when a frame misses it and goes up when one
finds it, until it reaches its limit. So it counts the frames that accepted the identity, and not only those since
the last miss: it tells matches in a row only for an identity that was never missed. -/
namespace TouchTracking.Tracker

def Frame.accepts (id : Nat) (frame : Frame) : Bool :=
  frame.after.tracked.any fun entry => entry.id == id && entry.matched

/-- The number of frames that have accepted a box for the identity. -/
def acceptances (id : Nat) (past : List Frame) : Nat := past.countP (Frame.accepts id)

/-- The number of frames in a row, up to the latest one, that have accepted a box for the identity. -/
def streak (id : Nat) (past : List Frame) : Nat := (past.takeWhile (Frame.accepts id)).length

theorem Frame.accepts_eq {frame : Frame} (numbered : Numbered frame.after) {entry : TrackedBlob}
    (member : entry ∈ frame.after.tracked) : frame.accepts entry.id = entry.matched := by
  rw [Bool.eq_iff_iff, accepts, List.any_eq_true]
  constructor
  · rintro ⟨other, member', found⟩
    rw [Bool.and_eq_true, beq_iff_eq] at found
    rw [← numbered.eq_of_id member' member found.1]
    exact found.2
  · intro matched
    exact ⟨entry, member, by simp [matched]⟩

theorem Frame.not_accepts {frame : Frame} {id : Nat} (untracked : id ∉ frame.after.ids) :
    frame.accepts id = false := by
  rw [accepts, List.any_eq_false]
  intro entry member found
  rw [Bool.and_eq_true, beq_iff_eq] at found
  exact untracked (List.mem_map.mpr ⟨entry, member, found.1⟩)

theorem acceptances_cons (id : Nat) (frame : Frame) (past : List Frame) :
    acceptances id (frame :: past) = acceptances id past + if frame.accepts id then 1 else 0 :=
  List.countP_cons

theorem acceptances_of_untracked {id : Nat} {past : List Frame}
    (untracked : ∀ frame ∈ past, id ∉ frame.after.ids) : acceptances id past = 0 := by
  rw [acceptances, List.countP_eq_zero]
  intro frame member
  rw [Frame.not_accepts (untracked frame member)]
  exact Bool.false_ne_true

theorem streak_le_acceptances (id : Nat) (past : List Frame) : streak id past ≤ acceptances id past := by
  have all : ∀ frame ∈ past.takeWhile (Frame.accepts id), frame.accepts id = true :=
    fun _ member => List.mem_takeWhile_imp member
  rw [streak, ← List.countP_eq_length.mpr all]
  exact (List.takeWhile_sublist _).countP_le

/-- What holds of a tracked entry and the frames up to now: its identity has been tracked after each of the latest
frames and after none before them, and its maturity is the number of matches after the first one, up to the
limit. -/
structure Matured (minAge : Nat) (past : List Frame) (entry : TrackedBlob) : Prop where
  lived : ∃ recent older, past = recent ++ older ∧ (∀ frame ∈ recent, entry.id ∈ frame.after.ids) ∧
    ∀ frame ∈ older, entry.id ∉ frame.after.ids
  begun : 1 ≤ acceptances entry.id past
  maturity : entry.maturity = min minAge (acceptances entry.id past - 1)

/-- At every moment of a run whose limit of maturity is fixed, the entries have matured as they should, and the
identities of all frames are below the counter. -/
structure Maturing (minAge : Nat) (tracker : Tracker) (past : List Frame) : Prop where
  numbered : Numbered tracker
  limit : tracker.params.minAge = minAge
  used : ∀ frame ∈ past, ∀ id ∈ frame.after.ids, id < tracker.nextId
  matured : ∀ entry ∈ tracker.tracked, Matured minAge past entry

/-- After another frame an identity that was tracked before has been tracked for one more frame. -/
theorem Matured.lived_cons {minAge : Nat} {past : List Frame} {prior : TrackedBlob}
    (matured : Matured minAge past prior) {frame : Frame} (held : prior.id ∈ frame.after.ids) :
    ∃ recent older, frame :: past = recent ++ older ∧ (∀ frame ∈ recent, prior.id ∈ frame.after.ids) ∧
      ∀ frame ∈ older, prior.id ∉ frame.after.ids := by
  obtain ⟨recent, older, split, during, before⟩ := matured.lived
  exact ⟨frame :: recent, older, by rw [split, List.cons_append], List.forall_mem_cons.mpr ⟨held, during⟩, before⟩

theorem Maturing.advance {minAge : Nat} {tracker : Tracker} {past : List Frame}
    (maturing : Maturing minAge tracker past) (candidates : List Blob) :
    Maturing minAge (tracker.advance candidates) (⟨candidates, tracker.advance candidates⟩ :: past) := by
  obtain ⟨numbered, limit, used, matured⟩ := maturing
  have numbered' := advance_numbered numbered candidates
  have grown := advance_grown numbered candidates
  refine ⟨numbered', limit, ?_, ?_⟩
  · intro frame member id listed
    rcases List.mem_cons.mp member with rfl | earlier
    · exact numbered'.below id listed
    · exact Nat.lt_of_lt_of_le (used frame earlier id listed) grown.nextId
  intro entry member
  have held : entry.id ∈ (tracker.advance candidates).ids := List.mem_map_of_mem member
  have counted : acceptances entry.id (⟨candidates, tracker.advance candidates⟩ :: past) =
      acceptances entry.id past + if entry.matched then 1 else 0 := by
    rw [acceptances_cons, Frame.accepts_eq numbered' member]
  cases succeeds member with
  | inherited prior blob before =>
    obtain ⟨-, begun, maturity⟩ := matured prior before
    refine ⟨(matured prior before).lived_cons held, ?_, ?_⟩
    · rw [counted]
      exact Nat.le_add_left ..
    · rw [counted]
      simp only [inherit, if_true, maturity, limit]
      omega
  | appeared blob id found unused =>
    have unseen : ∀ frame ∈ past, id ∉ frame.after.ids := by
      intro frame member listed
      exact Nat.not_lt.mpr unused (used frame member id listed)
    have none_before : acceptances id past = 0 := acceptances_of_untracked unseen
    refine ⟨⟨[_], past, rfl, List.forall_mem_singleton.mpr held, unseen⟩, ?_, ?_⟩
    · rw [counted]
      exact Nat.le_add_left ..
    · rw [counted]
      simp [TrackedBlob.ofBlob, none_before]
  | faded prior before =>
    obtain ⟨-, begun, maturity⟩ := matured prior before
    refine ⟨(matured prior before).lived_cons held, ?_, ?_⟩
    · rw [counted]
      exact Nat.le_add_right_of_le begun
    · rw [counted]
      exact maturity

/-- A request that brings no frame and no other parameters matures nothing. -/
theorem Maturing.idle {minAge : Nat} {tracker : Tracker} {past : List Frame} {action : Action}
    (maturing : Maturing minAge tracker past) (none : tracker.frame? action = none)
    (fixed : ∀ params, action ≠ .setParams params) : Maturing minAge (tracker.perform action).2 past := by
  obtain ⟨numbered, limit, used, matured⟩ := maturing
  have step := performed tracker action
  refine ⟨performed_numbered numbered step, (congrArg (·.minAge) (perform_steady fixed).1).trans limit, ?_, ?_⟩
  · intro frame member id listed
    exact Nat.lt_of_lt_of_le (used frame member id listed) (performed_grown numbered step).nextId
  · intro entry member
    rw [tracked] at member
    rcases perform_of_no_frame none with same | forgotten
    · rw [same] at member
      exact matured entry member
    · rw [forgotten] at member
      cases member

theorem Maturing.run {minAge : Nat} {tracker : Tracker} {past : List Frame} {actions : List Action}
    (maturing : Maturing minAge tracker past) (fixed : ∀ action ∈ actions, ∀ params, action ≠ .setParams params) :
    Maturing minAge (tracker.run actions) (tracker.journal past actions) := by
  induction actions generalizing tracker past with
  | nil => exact maturing
  | cons action actions ih =>
    obtain ⟨first, rest⟩ := List.forall_mem_cons.mp fixed
    rw [Tracker.run, journal]
    cases brought : tracker.frame? action with
    | some found =>
      apply ih _ rest
      rw [perform_of_frame brought]
      exact maturing.advance found
    | none => exact ih (maturing.idle brought first) rest

theorem Fresh.maturing {tracker : Tracker} (fresh : Fresh tracker) :
    Maturing tracker.params.minAge tracker [] := by
  refine ⟨fresh.numbered, rfl, nofun, ?_⟩
  rw [fresh.blank.1]
  nofun

/-- An identity that was accepted in all of the latest frames and in none before them was accepted as often as it
was in a row. -/
theorem streak_eq_acceptances {id : Nat} {recent older : List Frame}
    (during : ∀ frame ∈ recent, frame.accepts id = true) (before : ∀ frame ∈ older, frame.accepts id = false) :
    streak id (recent ++ older) = acceptances id (recent ++ older) := by
  have ended : older.takeWhile (Frame.accepts id) = [] := by
    cases older with
    | nil => rfl
    | cons frame older => simp [before frame List.mem_cons_self]
  have missed : older.countP (Frame.accepts id) = 0 := by
    apply List.countP_eq_zero.mpr
    intro frame member
    simp [before frame member]
  rw [streak, List.takeWhile_append_of_pos during, ended, List.append_nil, acceptances, List.countP_append,
    List.countP_eq_length.mpr during, missed, Nat.add_zero]

/-- For an identity that no frame has missed, all matches are in a row. -/
theorem Matured.streak_eq {minAge : Nat} {past : List Frame} {entry : TrackedBlob}
    (matured : Matured minAge past entry)
    (unmissed : ∀ frame ∈ past, ∀ other ∈ frame.after.tracked, other.id = entry.id → other.matched = true) :
    streak entry.id past = acceptances entry.id past := by
  obtain ⟨recent, older, rfl, during, before⟩ := matured.lived
  apply streak_eq_acceptances
  · intro frame member
    obtain ⟨other, held, same⟩ := List.mem_map.mp (during frame member)
    have found := unmissed frame (List.mem_append_left _ member) other held same
    exact List.any_eq_true.mpr ⟨other, held, by simp [same, found]⟩
  · intro frame member
    exact Frame.not_accepts (before frame member)

/-- After every run without a change of parameters the maturity of an entry is one less than the number of frames
that have accepted its identity, up to the limit; misses in between do not set it back. There are at least as
many of these frames as there are of them in a row, and exactly as many if no frame has missed the identity, so that the
maturity of such an entry tells its matches in a row. -/
theorem maturity_counts_matches {tracker : Tracker} (fresh : Fresh tracker) {actions : List Action}
    (fixed : ∀ action ∈ actions, ∀ params, action ≠ .setParams params) {entry : TrackedBlob}
    (member : entry ∈ (tracker.run actions).tracked) :
    let minAge := tracker.params.minAge
    let past := tracker.journal [] actions
    (1 ≤ acceptances entry.id past ∧ entry.maturity = min minAge (acceptances entry.id past - 1)) ∧
    min minAge (streak entry.id past - 1) ≤ entry.maturity ∧
    ((∀ frame ∈ past, ∀ other ∈ frame.after.tracked, other.id = entry.id → other.matched = true) →
      entry.maturity = min minAge (streak entry.id past - 1)) := by
  intro minAge past
  have matured : Matured minAge past entry := (fresh.maturing.run fixed).matured entry member
  have shorter := streak_le_acceptances entry.id past
  refine ⟨⟨matured.begun, matured.maturity⟩, ?_, ?_⟩
  · rw [matured.maturity]
    omega
  · intro unmissed
    rw [matured.streak_eq unmissed]
    exact matured.maturity

/-- Of two boxes the one is found in every frame, and the other in every second one. -/
def flickering : List Action :=
  [.update [⟨15, 15, 10, 10⟩, ⟨40, 40, 9, 9⟩] 64 64, .update [⟨40, 41, 9, 9⟩] 64 64,
    .update [⟨15, 15, 10, 10⟩, ⟨40, 42, 9, 9⟩] 64 64, .update [⟨40, 41, 9, 9⟩] 64 64,
    .update [⟨15, 15, 10, 10⟩, ⟨40, 40, 9, 9⟩] 64 64]

theorem maturity_counts_matches_flickering :
    Fresh standard ∧ (∀ action ∈ flickering, ∀ params, action ≠ .setParams params) ∧
    ⟨⟨15, 15, 10, 10⟩, 1, 0, true, 2⟩ ∈ (standard.run flickering).tracked ∧
    2 = min standard.params.minAge (acceptances 1 (standard.journal [] flickering) - 1) ∧
    ⟨⟨40, 40, 9, 9⟩, 2, 0, true, 2⟩ ∈ (standard.run flickering).tracked ∧
    2 = min standard.params.minAge (streak 2 (standard.journal [] flickering) - 1) := by
  have fixed : ∀ action ∈ flickering, ∀ params, action ≠ .setParams params := by simp [flickering]
  have missed : ⟨⟨15, 15, 10, 10⟩, 1, 0, true, 2⟩ ∈ (standard.run flickering).tracked := by decide
  have unmissed : ⟨⟨40, 40, 9, 9⟩, 2, 0, true, 2⟩ ∈ (standard.run flickering).tracked := by decide
  exact ⟨.standard, fixed, missed, (maturity_counts_matches .standard fixed missed).1.2, unmissed,
    (maturity_counts_matches .standard fixed unmissed).2.2 (by decide)⟩

/-- A box that is found in every second frame only becomes mature, though its latest match follows a miss. -/
theorem mature_though_missed :
    ∃ entry ∈ (standard.run flickering).tracked, entry.matched = true ∧
      streak entry.id (standard.journal [] flickering) = 1 ∧
      entry.maturity ≠ min standard.params.minAge (streak entry.id (standard.journal [] flickering) - 1) ∧
      entry.isMature standard.params.minAge = true := by
  decide

end TouchTracking.Tracker
