import TouchTracking.Proofs.Cascade

/-! What a feed shows. Whoever looks at a feed, from outside or out of a reaction at any depth of a cascade, finds
in its slot the payload that was accepted last, under the count of the payloads accepted so far. A push ends in
the middle of others and goes on notifying after the slot has been filled anew, so this is an invariant over the
moments of a cascade; that of a call follows from it. -/
namespace TouchTracking.Feed

variable {α : Type}

/-- The feed as it is to be seen once exactly the given payloads have been accepted, in this order. -/
structure Shows (feed : Feed α) (payloads : List Payload) : Prop where
  sequence : feed.sequence = payloads.length
  slot : feed.slot = payloads.getLast?
  vacant : feed.slot = none ↔ feed.sequence = 0
  format : ∀ payload, feed.slot = some payload → payload.format = feed.format

theorem shows_empty (name : String) (format : Format) : (empty name format : Feed α).Shows [] where
  sequence := rfl
  slot := rfl
  vacant := ⟨fun _ => rfl, fun _ => rfl⟩
  format := nofun

/-- Whatever is accepted later, the payload in the slot goes by the number that the feed counts. -/
theorem Shows.slot_eq_getElem? {feed : Feed α} {payloads : List Payload} (shown : feed.Shows payloads)
    (filled : feed.sequence ≠ 0) (later : List Payload) :
    feed.slot = (payloads ++ later)[feed.sequence - 1]? := by
  have bound : feed.sequence - 1 < payloads.length := by
    have := shown.sequence
    omega
  rw [List.getElem?_append_left bound, shown.slot, shown.sequence, List.getLast?_eq_getElem?]

/-- A push is accepted exactly when the payload has the format of the feed. -/
theorem push_cases (feed : Feed α) (payload : Payload) :
    (payload.format = feed.format ∧
      feed.push payload = .ok { feed with slot := some payload, sequence := feed.sequence + 1 }) ∨
    (payload.format ≠ feed.format ∧
      feed.push payload = .error ⟨feed.name, feed.format, payload.format⟩) := by
  by_cases fits : payload.format = feed.format
  · exact .inl ⟨fits, if_pos fits⟩
  · exact .inr ⟨fits, if_neg fits⟩

theorem Shows.push {feed next : Feed α} {payload : Payload} {payloads : List Payload}
    (shown : feed.Shows payloads) (accepted : feed.push payload = .ok next) :
    next.Shows (payloads ++ [payload]) := by
  obtain ⟨fits, taken⟩ | ⟨-, refused⟩ := push_cases feed payload
  · cases accepted.symm.trans taken
    constructor
    case sequence => simp [shown.sequence]
    case slot => simp
    case vacant => simp
    case format =>
      rintro _ ⟨⟩
      exact fits
  · cases accepted.symm.trans refused

/-- What does not touch the slot, its number or the format leaves what is shown as it is. -/
theorem Shows.congr {feed next : Feed α} {payloads : List Payload} (shown : feed.Shows payloads)
    (sequence : next.sequence = feed.sequence) (slot : next.slot = feed.slot)
    (format : next.format = feed.format) : next.Shows payloads where
  sequence := sequence.trans shown.sequence
  slot := slot.trans shown.slot
  vacant := by rw [slot, sequence, shown.vacant]
  format := by rw [slot, format]; exact shown.format

namespace Scene

/-- The payload that is accepted in a moment, if there is one. -/
def intake : Moment α → Option Payload
  | (scene, .push payload) => (scene.feed.push payload).toOption.map fun _ => payload
  | _ => none

def accepted (moments : List (Moment α)) : List Payload := moments.filterMap intake

/-- What a task puts on record. -/
def tells (scene : Scene α) : Task α → List (Event α)
  | .notify _ observer => [.notified observer scene.feed.sequence]
  | .react observer .read => [.read observer scene.feed.slot]
  | .report observer result => [.pushed observer result]
  | _ => []

variable {scene final : Scene α} {tasks : List (Task α)} {moments : List (Moment α)} {past : List Payload}

theorem accepted_append (first second : List (Moment α)) :
    accepted (first ++ second) = accepted first ++ accepted second :=
  List.filterMap_append

theorem accepted_cons (moment : Moment α) (moments : List (Moment α)) :
    accepted (moment :: moments) = accepted [moment] ++ accepted moments :=
  accepted_append [moment] moments

theorem accepted_push {payload : Payload} {feed : Feed α} (pushed : scene.feed.push payload = .ok feed) :
    accepted [(scene, .push payload)] = [payload] := by
  simp [accepted, intake, pushed, Except.toOption]

/-- Nothing is accepted but by a push that is. -/
theorem accepted_quiet {task : Task α}
    (refused : ∀ payload feed, task = .push payload → scene.feed.push payload ≠ .ok feed) :
    accepted [(scene, task)] = [] := by
  cases task with
  | push payload =>
    cases pushed : scene.feed.push payload with
    | ok feed => exact absurd pushed (refused payload feed rfl)
    | error refusal => simp [accepted, intake, pushed, Except.toOption]
  | notify | react | report => rfl

/-! Whoever pushes learns whether the push was accepted, later than the payload is to be seen: the pushes that are
still to be reported on make up the difference. -/

/-- The count of accepted pushes that a log tells of. -/
def confirmed (events : List (Event α)) : Nat := events.countP fun
  | .pushed _ (.ok _) => true
  | _ => false

/-- The count of accepted pushes that are to be reported on. -/
def reported (tasks : List (Task α)) : Nat := tasks.countP fun
  | .report _ (.ok _) => true
  | _ => false

/-- The count of pushes to come that will be accepted. -/
def upcoming (format : Format) (tasks : List (Task α)) : Nat := tasks.countP fun
  | .push payload => payload.format = format
  | _ => false

theorem unsettled_map {ι : Type} (format : Format) (task : ι → Task α) (items : List ι)
    (other : ∀ item, (∃ number observer, task item = .notify number observer) ∨
      ∃ observer reaction, task item = .react observer reaction) :
    upcoming format (items.map task) = 0 ∧ reported (items.map task) = 0 := by
  constructor
  all_goals
    refine List.countP_eq_zero.mpr fun made member => ?_
    obtain ⟨item, -, rfl⟩ := List.mem_map.mp member
    obtain ⟨number, observer, same⟩ | ⟨observer, reaction, same⟩ := other item <;> simp [same]

variable [DecidableEq α]

theorem label_perform (scene : Scene α) (task : Task α) :
    (scene.perform task).2.feed.name = scene.feed.name ∧
    (scene.perform task).2.feed.format = scene.feed.format := by
  cases task with
  | push payload =>
    obtain ⟨-, taken⟩ | ⟨-, refused⟩ := push_cases scene.feed payload
    · rw [perform_accepted taken]
      exact ⟨rfl, rfl⟩
    · simp only [perform, refused, and_self]
  | notify number observer => exact ⟨rfl, rfl⟩
  | report observer result => exact ⟨rfl, rfl⟩
  | react observer reaction =>
    cases reaction with
    | subscribe other =>
      simp only [perform, Feed.subscribe]
      split <;> exact ⟨rfl, rfl⟩
    | unsubscribe other => exact ⟨rfl, rfl⟩
    | push payload => exact ⟨rfl, rfl⟩
    | read => exact ⟨rfl, rfl⟩

/-- One task accepts at most one payload, which is then to be seen. -/
theorem shows_perform (shown : scene.feed.Shows past) (task : Task α) :
    (scene.perform task).2.feed.Shows (past ++ accepted [(scene, task)]) := by
  have format := (label_perform scene task).2
  have does := performed scene task
  generalize scene.perform task = outcome at does format
  cases does with
  | accepted payload feed pushed =>
    rw [accepted_push pushed]
    exact shown.push pushed
  | quiet tasks next refused _ sequence slot =>
    rw [accepted_quiet refused, List.append_nil]
    exact shown.congr sequence slot format

theorem events_perform (scene : Scene α) (task : Task α) :
    (scene.perform task).2.events = scene.events ++ scene.tells task := by
  cases task with
  | push payload =>
    obtain ⟨-, taken⟩ | ⟨-, refused⟩ := push_cases scene.feed payload
    · rw [perform_accepted taken]
      exact (List.append_nil _).symm
    · simp only [perform, refused, tells, List.append_nil]
  | notify number observer => rfl
  | report observer result => rfl
  | react observer reaction =>
    cases reaction with
    | read => rfl
    | subscribe other => exact (List.append_nil _).symm
    | unsubscribe other => exact (List.append_nil _).symm
    | push payload => exact (List.append_nil _).symm

/-- At every moment of a cascade and in its end, the feed shows what has been accepted by then. -/
theorem Cascade.shows (cascade : Cascade tasks scene moments final) (shown : scene.feed.Shows past) :
    final.feed.Shows (past ++ accepted moments) ∧
    ∀ before moment after, moments = before ++ moment :: after →
      moment.1.feed.Shows (past ++ accepted before) := by
  induction cascade generalizing past with
  | done => exact ⟨by simpa [accepted] using shown, by simp⟩
  | @step task tasks scene final moments _ ih =>
    obtain ⟨last, between⟩ := ih (shows_perform shown task)
    rw [List.append_assoc, ← accepted_cons] at last
    refine ⟨last, fun before moment after split => ?_⟩
    cases before with
    | nil =>
      cases split
      simpa [accepted] using shown
    | cons first before =>
      obtain ⟨rfl, rfl⟩ := List.cons.inj split
      rw [accepted_cons, ← List.append_assoc]
      exact between before moment after rfl

theorem Cascade.events_eq (cascade : Cascade tasks scene moments final) :
    final.events = scene.events ++ moments.flatMap fun moment => moment.1.tells moment.2 := by
  induction cascade with
  | done => simp
  | @step task tasks scene final moments _ ih =>
    rw [ih, events_perform, List.append_assoc, List.flatMap_cons]

theorem Cascade.label (cascade : Cascade tasks scene moments final) :
    final.feed.name = scene.feed.name ∧ final.feed.format = scene.feed.format ∧
    ∀ moment ∈ moments, moment.1.feed.name = scene.feed.name ∧
      moment.1.feed.format = scene.feed.format := by
  induction cascade with
  | done => simp
  | @step task tasks scene final moments _ ih =>
    obtain ⟨name, format⟩ := label_perform scene task
    rw [name, format] at ih
    refine ⟨ih.1, ih.2.1, fun moment member => ?_⟩
    rcases List.mem_cons.mp member with rfl | later
    · exact ⟨rfl, rfl⟩
    · exact ih.2.2 moment later

/-- A push that is accepted has been counted on or is yet to be reported on. -/
theorem balance_perform (scene : Scene α) (task : Task α) :
    upcoming scene.feed.format [task] + confirmed (scene.perform task).2.events +
        reported (scene.perform task).1 =
      upcoming scene.feed.format (scene.perform task).1 + confirmed scene.events + reported [task] +
        (accepted [(scene, task)]).length := by
  rw [events_perform, confirmed, List.countP_append]
  cases task with
  | push payload =>
    obtain ⟨fits, taken⟩ | ⟨differs, refused⟩ := push_cases scene.feed payload
    · obtain ⟨coming, told⟩ := unsettled_map scene.feed.format
        (Task.notify (α := α) (scene.feed.sequence + 1)) scene.feed.observers fun _ => .inl ⟨_, _, rfl⟩
      rw [perform_accepted taken, accepted_push taken, coming, told]
      simp [upcoming, reported, confirmed, tells, fits]
      omega
    · simp [upcoming, reported, confirmed, tells, perform, accepted, intake, refused, differs, Except.toOption]
  | notify number observer =>
    obtain ⟨coming, told⟩ := unsettled_map scene.feed.format (Task.react observer)
      ((scene.log (.notified observer scene.feed.sequence)).takeBatch observer).1 fun _ => .inr ⟨_, _, rfl⟩
    simp only [perform, coming, told]
    rfl
  | react observer reaction =>
    cases reaction with
    | push payload =>
      have none : accepted [(scene, Task.react observer (.push payload))] = [] :=
        accepted_quiet fun _ _ same => by cases same
      obtain ⟨fits, taken⟩ | ⟨differs, refused⟩ := push_cases scene.feed payload
      · simp [none, upcoming, reported, confirmed, tells, perform, verdict, taken, fits, Except.map]
        omega
      · simp [none, upcoming, reported, confirmed, tells, perform, verdict, refused, differs, Except.map]
    | subscribe other => rfl
    | unsubscribe other => rfl
    | read => rfl
  | report observer result =>
    cases result with
    | ok => simp [upcoming, reported, confirmed, tells, perform, accepted, intake]
    | error refusal => rfl

theorem Cascade.balance (cascade : Cascade tasks scene moments final) :
    confirmed final.events + upcoming scene.feed.format tasks =
      confirmed scene.events + reported tasks + (accepted moments).length := by
  induction cascade with
  | done => rfl
  | @step task tasks scene final moments _ ih =>
    have now := balance_perform scene task
    have first : upcoming scene.feed.format (task :: tasks) =
        upcoming scene.feed.format [task] + upcoming scene.feed.format tasks :=
      (List.countP_append : ([task] ++ tasks).countP _ = _)
    have told : reported (task :: tasks) = reported [task] + reported tasks :=
      (List.countP_append : ([task] ++ tasks).countP _ = _)
    rw [(label_perform scene task).2, upcoming, List.countP_append, reported, List.countP_append] at ih
    rw [accepted_cons, List.length_append, first, told]
    simp only [upcoming, reported] at *
    omega

/-- Calls from outside: each caller does what an observer may do when it is notified. -/
def run (scene : Scene α) (calls : List (α × Reaction α)) : Scene α :=
  calls.foldl (fun scene call => react publish call.1 scene call.2) scene

theorem run_cascade (calls : List (α × Reaction α)) (scene : Scene α) :
    ∃ moments, Cascade (calls.map fun call => .react call.1 call.2) scene moments (scene.run calls) := by
  have carries (depth : Nat) : Carries depth (publish (α := α)) := fun scene payload _ =>
    publishWithin_carries (scene.pending + 1) scene payload (Nat.lt_succ_self _)
  induction calls generalizing scene with
  | nil => exact ⟨[], .done⟩
  | cons call calls ih =>
    obtain ⟨-, first, begun⟩ := react_cascade (carries _) call.1 (Nat.lt_succ_self scene.pending) call.2
    obtain ⟨rest, continued⟩ := ih (react publish call.1 scene call.2)
    exact ⟨_, begun.append continued⟩

/-- A push of the wrong format leaves everything as it is, the observers untold, and is answered with an error. -/
theorem perform_refused {payload : Payload} (differs : payload.format ≠ scene.feed.format) :
    scene.perform (.push payload) = ([], scene) ∧
    scene.publish payload = (.error ⟨scene.feed.name, scene.feed.format, payload.format⟩, scene) := by
  have refused : scene.feed.push payload =
      .error ⟨scene.feed.name, scene.feed.format, payload.format⟩ := if_neg differs
  simp only [perform, publish, publishWithin, refused, and_self]

/-- A push of the right format is taken in, with the number that comes next, and is answered with success. -/
theorem perform_fitting {payload : Payload} (fits : payload.format = scene.feed.format) :
    (scene.perform (.push payload)).2 =
      { scene with feed := { scene.feed with slot := some payload, sequence := scene.feed.sequence + 1 } } ∧
    (scene.publish payload).1 = .ok () := by
  have taken : scene.feed.push payload =
      .ok { scene.feed with slot := some payload, sequence := scene.feed.sequence + 1 } := if_pos fits
  rw [perform_accepted taken]
  simp only [publish, publishWithin, taken, and_self]

/-- A feed that is called from outside in any way, while its observers react in any way, shows at every moment
what it has accepted: that many payloads, the last one in the slot. The calls come to an end, with as many pushes
answered as accepted as the feed then counts, and all that is read on the way is what was to be seen. A push, at
whatever depth, is accepted if it has the format of the feed; one of the wrong format changes nothing and notifies
nobody. -/
theorem run_shows_accepted (name : String) (format : Format)
    (scripts : List (α × List (List (Reaction α)))) (calls : List (α × Reaction α)) :
    let final := run ⟨.empty name format, scripts, []⟩ calls
    ∃ moments, Cascade (calls.map fun call => .react call.1 call.2) ⟨.empty name format, scripts, []⟩
        moments final ∧
      final.events = moments.flatMap (fun moment => moment.1.tells moment.2) ∧
      final.feed.format = format ∧ final.feed.Shows (accepted moments) ∧
      final.feed.sequence = confirmed final.events ∧
      (∀ before moment after, moments = before ++ moment :: after →
        moment.1.feed.format = format ∧ moment.1.feed.Shows (accepted before) ∧
        (moment.1.feed.sequence ≠ 0 →
          moment.1.feed.slot = (accepted moments)[moment.1.feed.sequence - 1]?)) ∧
      ∀ scene payload, (scene, .push payload) ∈ moments →
        (payload.format = format →
          (scene.perform (.push payload)).2 = { scene with
            feed := { scene.feed with slot := some payload, sequence := scene.feed.sequence + 1 } } ∧
          (scene.publish payload).1 = .ok ()) ∧
        (payload.format ≠ format →
          scene.perform (.push payload) = ([], scene) ∧
          scene.publish payload = (.error ⟨name, format, payload.format⟩, scene)) := by
  intro final
  obtain ⟨moments, cascade⟩ := run_cascade calls ⟨.empty name format, scripts, []⟩
  obtain ⟨last, between⟩ := cascade.shows (shows_empty name format)
  obtain ⟨-, format', label⟩ := cascade.label
  have balance := cascade.balance
  refine ⟨moments, cascade, cascade.events_eq, format', last, ?_, ?_, ?_⟩
  · obtain ⟨coming, told⟩ := unsettled_map format (fun call : α × Reaction α => .react call.1 call.2) calls
      fun _ => .inr ⟨_, _, rfl⟩
    calc final.feed.sequence
      _ = (accepted moments).length := last.sequence
      _ = confirmed [] + reported _ + (accepted moments).length := by rw [told]; simp [confirmed]
      _ = confirmed final.events + upcoming format _ := balance.symm
      _ = confirmed final.events := by rw [coming, Nat.add_zero]
  · rintro before moment after rfl
    have shown : moment.1.feed.Shows (accepted before) := between before moment after rfl
    refine ⟨(label moment (by simp)).2, shown, fun filled => ?_⟩
    rw [accepted_append]
    exact shown.slot_eq_getElem? filled _
  · intro scene payload member
    obtain ⟨same, same'⟩ := label _ member
    simp only [Feed.empty] at same same'
    rw [← same, ← same']
    exact ⟨perform_fitting, perform_refused⟩

/-- The first of two observers pushes a picture, which is refused, looks, and pushes an empty payload. -/
def nested : List (Nat × List (List (Reaction Nat))) :=
  [(1, [[.push (.image (.blank 1 1 1)), .read, .push (.touches [])], [.read]]), (2, [[.read]])]

/-- Two observers are registered before a touch is pushed. -/
def outer : List (Nat × Reaction Nat) :=
  [(0, .subscribe 1), (0, .subscribe 2), (0, .push (.touches [⟨5, Binary.Single.zero, Binary.Single.one, 3, 4⟩]))]

theorem run_shows_accepted_nested :
    let final := run ⟨.empty "touches" .touch, nested, []⟩ outer
    final.feed.sequence = 2 ∧ final.feed.slot.bind Payload.touches? = some [] ∧
      ∃ moments, Cascade (outer.map fun call => .react call.1 call.2) ⟨.empty "touches" .touch, nested, []⟩ moments
          final ∧
        (accepted moments).length = 2 ∧ (accepted moments).getLast? = final.feed.slot ∧
        confirmed final.events = 2 ∧
        ∀ scene payload, (scene, .push payload) ∈ moments → payload.format = .touch →
          (scene.publish payload).1 = .ok () := by
  intro final
  have count : final.feed.sequence = 2 := by decide +kernel
  have latest : final.feed.slot.bind Payload.touches? = some [] := by decide +kernel
  obtain ⟨moments, cascade, -, -, shown, answered, -, pushes⟩ := run_shows_accepted "touches" .touch nested outer
  exact ⟨count, latest, moments, cascade, shown.sequence.symm.trans count, shown.slot.symm, answered.symm.trans count,
    fun scene payload member fits => ((pushes scene payload member).1 fits).2⟩

end Scene
end TouchTracking.Feed
