import TouchTracking.Feed.Dispatch

/-! What a push sets off. Observers that are notified react at once, and their reactions may push again, so that
one push grows into a cascade of tasks, each of which is finished before the next one of its kind begins.
Every cascade ends, and every accepted push in it notifies exactly the observers that were registered when it
was accepted, whatever happens in between. -/
namespace TouchTracking.Feed

variable {α : Type}

/-- What there is to do in a cascade. -/
inductive Task (α : Type)
  | push (payload : Payload)
  /-- An observer hears of the payload of that number. -/
  | notify (number : Nat) (observer : α)
  | react (observer : α) (reaction : Reaction α)
  /-- An observer learns how its push ended. -/
  | report (observer : α) (result : Except PushError Unit)

/-- A task with the scene in which it is taken up. -/
abbrev Moment (α : Type) := Scene α × Task α

def verdict (feed : Feed α) (payload : Payload) : Except PushError Unit :=
  (feed.push payload).map fun _ => ()

/-- An accepted push fills the slot and counts, and leaves the registrations alone. -/
theorem push_ok {feed next : Feed α} {payload : Payload} (accepted : feed.push payload = .ok next) :
    next.slot = some payload ∧ next.sequence = feed.sequence + 1 ∧ next.observers = feed.observers := by
  unfold push at accepted
  split at accepted
  next => cases accepted; exact ⟨rfl, rfl, rfl⟩
  next => cases accepted

theorem nodup_subscribe [DecidableEq α] {feed : Feed α} (distinct : feed.observers.Nodup)
    (observer : α) : (feed.subscribe observer).observers.Nodup := by
  unfold subscribe
  split
  next => exact distinct
  next new =>
    refine List.nodup_append.mpr ⟨distinct, List.pairwise_singleton .., fun one known other member => ?_⟩
    rintro rfl
    exact new (List.mem_singleton.mp member ▸ known)

namespace Scene

/-- The observers to be notified of the payload of a number. -/
def recipients (number : Nat) (tasks : List (Task α)) : List α := tasks.filterMap fun
  | .notify other observer => if other = number then some observer else none
  | _ => none

def notified (number : Nat) (moments : List (Moment α)) : List α :=
  recipients number (moments.map Prod.snd)

/-- A payload was accepted under a number while the given observers were registered. -/
def Accepts (moments : List (Moment α)) (number : Nat) (payload : Payload) (registered : List α) :
    Prop :=
  ∃ scene feed, (scene, .push payload) ∈ moments ∧ scene.feed.push payload = .ok feed ∧
    feed.sequence = number ∧ scene.feed.observers = registered

/-- The notifications that a log tells of, with the number of the payload that was in the slot. -/
def notices (events : List (Event α)) : List (α × Nat) := events.filterMap fun
  | .notified observer sequence => some (observer, sequence)
  | _ => none

/-- The notifications among some moments, with the number of the payload that was in the slot. -/
def notifications (moments : List (Moment α)) : List (α × Nat) := moments.filterMap fun
  | (scene, .notify _ observer) => some (observer, scene.feed.sequence)
  | _ => none

variable {tasks : List (Task α)} {scene : Scene α} {moments : List (Moment α)}

theorem mem_recipients {number : Nat} {observer : α} :
    observer ∈ recipients number tasks ↔ .notify number observer ∈ tasks := by
  simp only [recipients, List.mem_filterMap]
  constructor
  · rintro ⟨task, member, chosen⟩
    split at chosen
    next other observer' =>
      split at chosen
      next same => cases chosen; exact same ▸ member
      next => cases chosen
    next => cases chosen
  · exact fun member => ⟨_, member, if_pos rfl⟩

theorem recipients_append (number : Nat) (first second : List (Task α)) :
    recipients number (first ++ second) = recipients number first ++ recipients number second :=
  List.filterMap_append

theorem recipients_notify (number : Nat) (observers : List α) :
    recipients number (observers.map (.notify number)) = observers := by
  induction observers with
  | nil => rfl
  | cons observer observers ih =>
    rw [List.map_cons, ← List.singleton_append, recipients_append, ih]
    simp [recipients]

theorem notified_cons (number : Nat) (scene : Scene α) (task : Task α) (moments : List (Moment α)) :
    notified number ((scene, task) :: moments) = recipients number [task] ++ notified number moments :=
  recipients_append number [task] (moments.map Prod.snd)

theorem accepts_cons {task : Task α} {number : Nat} {payload : Payload} {registered : List α} :
    Accepts ((scene, task) :: moments) number payload registered ↔
      (∃ feed, task = .push payload ∧ scene.feed.push payload = .ok feed ∧ feed.sequence = number ∧
        scene.feed.observers = registered) ∨
      Accepts moments number payload registered := by
  constructor
  · rintro ⟨scene', feed, member, accepted⟩
    rcases List.mem_cons.mp member with same | later
    · obtain ⟨rfl, rfl⟩ := Prod.mk.inj same
      exact .inl ⟨feed, rfl, accepted⟩
    · exact .inr ⟨scene', feed, later, accepted⟩
  · rintro (⟨feed, rfl, accepted⟩ | ⟨scene', feed, later, accepted⟩)
    · exact ⟨scene, feed, List.mem_cons_self, accepted⟩
    · exact ⟨scene', feed, List.mem_cons_of_mem _ later, accepted⟩

/-- Only payloads that have been accepted are notified of. -/
def Due (scene : Scene α) (tasks : List (Task α)) : Prop :=
  ∀ number observer, .notify number observer ∈ tasks → number ≤ scene.feed.sequence

theorem Due.recipients_eq_nil (due : Due scene tasks) {number : Nat}
    (new : scene.feed.sequence < number) : recipients number tasks = [] := by
  refine List.eq_nil_iff_forall_not_mem.mpr fun observer member => ?_
  exact Nat.not_lt.mpr (due number observer (mem_recipients.mp member)) new

theorem notices_log (scene : Scene α) (event : Event α) :
    notices (scene.log event).events = notices scene.events ++ notices [event] :=
  List.filterMap_append

variable [DecidableEq α]

/-- Carries a task out, and tells which tasks it sets off. -/
def perform (scene : Scene α) : Task α → List (Task α) × Scene α
  | .push payload => match scene.feed.push payload with
    | .error _ => ([], scene)
    | .ok feed => (feed.observers.map (.notify feed.sequence), { scene with feed })
  | .notify _ observer =>
    let (batch, scene) := (scene.log (.notified observer scene.feed.sequence)).takeBatch observer
    (batch.map (.react observer), scene)
  | .react observer (.push payload) =>
    ([.push payload, .report observer (scene.feed.verdict payload)], scene)
  | .react _ (.subscribe other) => ([], { scene with feed := scene.feed.subscribe other })
  | .react _ (.unsubscribe other) => ([], { scene with feed := scene.feed.unsubscribe other })
  | .react observer .read => ([], scene.log (.read observer scene.feed.slot))
  | .report observer result => ([], scene.log (.pushed observer result))

/-- Tasks are carried out until none is left, those that a task sets off before the ones behind it. -/
inductive Cascade : List (Task α) → Scene α → List (Moment α) → Scene α → Prop
  | done {scene : Scene α} : Cascade [] scene [] scene
  | step {task : Task α} {tasks : List (Task α)} {scene final : Scene α} {moments : List (Moment α)}
      (rest : Cascade ((scene.perform task).1 ++ tasks) (scene.perform task).2 moments final) :
      Cascade (task :: tasks) scene ((scene, task) :: moments) final

theorem Cascade.append {first second : List (Task α)} {scene middle final : Scene α}
    {moments moments' : List (Moment α)} (begun : Cascade first scene moments middle)
    (continued : Cascade second middle moments' final) :
    Cascade (first ++ second) scene (moments ++ moments') final := by
  induction begun with
  | done => exact continued
  | step _ ih => exact .step (by simpa using ih continued)

theorem Cascade.one {task : Task α} {scene final : Scene α} {moments : List (Moment α)}
    (rest : Cascade (scene.perform task).1 (scene.perform task).2 moments final) :
    Cascade [task] scene ((scene, task) :: moments) final :=
  .step (by rwa [List.append_nil])

section Pending

theorem length_advanceScripts (observer : α) (scripts : List (α × List (List (Reaction α)))) :
    ((advanceScripts observer scripts).flatMap Prod.snd).length +
        ((scripts.lookup observer).bind List.head?).toList.length =
      (scripts.flatMap Prod.snd).length := by
  induction scripts with
  | nil => rfl
  | cons entry scripts ih =>
    obtain ⟨owner, batches⟩ := entry
    rw [advanceScripts]
    by_cases own : owner = observer
    · subst own
      cases batches <;> simp
    · have other : (observer == owner) = false := beq_false_of_ne (Ne.symm own)
      simp only [if_neg own, List.flatMap_cons, List.length_append, List.lookup_cons, other]
      omega

theorem pending_takeBatch (scene : Scene α) (observer : α) :
    (scene.takeBatch observer).2.pending ≤ scene.pending ∧
    ((scene.takeBatch observer).1 ≠ [] → (scene.takeBatch observer).2.pending < scene.pending) := by
  have used := length_advanceScripts observer scene.scripts
  simp only [takeBatch, pending]
  cases next : (scene.scripts.lookup observer).bind List.head? with
  | none => exact ⟨by omega, fun some_ => absurd rfl some_⟩
  | some batch =>
    rw [next] at used
    simp only [Option.toList_some, List.length_singleton] at used
    exact ⟨by omega, fun _ => by omega⟩

end Pending

/-- What nested pushes have to do for a cascade to be what the scene goes through: they end as pushes do,
and go through cascades of their own, as long as no more batches are left than they can be deep. -/
def Carries (depth : Nat) (publish : Scene α → Payload → Except PushError Unit × Scene α) : Prop :=
  ∀ scene payload, scene.pending < depth →
    (publish scene payload).1 = scene.feed.verdict payload ∧
    (publish scene payload).2.pending ≤ scene.pending ∧
    ∃ moments, Cascade [.push payload] scene moments (publish scene payload).2

variable {depth : Nat} {publish : Scene α → Payload → Except PushError Unit × Scene α}

theorem react_cascade (carries : Carries depth publish) (observer : α) {scene : Scene α}
    (room : scene.pending < depth) (reaction : Reaction α) :
    (react publish observer scene reaction).pending ≤ scene.pending ∧
    ∃ moments, Cascade [.react observer reaction] scene moments
      (react publish observer scene reaction) := by
  cases reaction with
  | subscribe other => exact ⟨Nat.le_refl _, _, .one .done⟩
  | unsubscribe other => exact ⟨Nat.le_refl _, _, .one .done⟩
  | read => exact ⟨Nat.le_refl _, _, .one .done⟩
  | push payload =>
    obtain ⟨ends, fewer, moments, cascade⟩ := carries scene payload room
    have reported : Cascade [.report observer (scene.feed.verdict payload)] (publish scene payload).2
        [((publish scene payload).2, .report observer (scene.feed.verdict payload))]
        (react publish observer scene (.push payload)) := by
      rw [← ends]
      exact .one .done
    exact ⟨fewer, _, .one (cascade.append reported)⟩

/-- A batch of reactions is a cascade of them, one after the other. -/
theorem foldl_react_cascade (carries : Carries depth publish) (observer : α)
    (batch : List (Reaction α)) {scene : Scene α} (room : scene.pending < depth) :
    (batch.foldl (react publish observer) scene).pending ≤ scene.pending ∧
    ∃ moments, Cascade (batch.map (.react observer)) scene moments
      (batch.foldl (react publish observer) scene) := by
  induction batch generalizing scene with
  | nil => exact ⟨Nat.le_refl _, [], .done⟩
  | cons reaction batch ih =>
    obtain ⟨fewer, first, begun⟩ := react_cascade carries observer room reaction
    obtain ⟨fewer', rest, continued⟩ := ih (Nat.lt_of_le_of_lt fewer room)
    exact ⟨Nat.le_trans fewer' fewer, _, begun.append continued⟩

/-- The batch that an observer takes leaves room for its pushes to be one level deeper. -/
theorem notify_cascade (carries : Carries depth publish) (number : Nat) (observer : α)
    {scene : Scene α} (room : scene.pending < depth + 1) :
    (notify publish scene observer).pending ≤ scene.pending ∧
    ∃ moments, Cascade [.notify number observer] scene moments (notify publish scene observer) := by
  obtain ⟨fewer, used⟩ := pending_takeBatch (scene.log (.notified observer scene.feed.sequence)) observer
  simp only [notify]
  generalize taken : (scene.log (.notified observer scene.feed.sequence)).takeBatch observer = pair
    at fewer used
  obtain ⟨batch, left⟩ := pair
  have fewer : left.pending ≤ scene.pending := fewer
  have sets : scene.perform (.notify number observer) = (batch.map (.react observer), left) := by
    simp only [perform, taken]
  cases batch with
  | nil => exact ⟨fewer, _, .one (by rw [sets]; exact .done)⟩
  | cons reaction batch =>
    have room' : left.pending < depth := by
      have : left.pending < scene.pending := used nofun
      omega
    obtain ⟨fewer', moments, cascade⟩ := foldl_react_cascade carries observer (reaction :: batch) room'
    exact ⟨Nat.le_trans fewer' fewer, _, .one (by rw [sets]; exact cascade)⟩

theorem foldl_notify_cascade (carries : Carries depth publish) (number : Nat) (observers : List α)
    {scene : Scene α} (room : scene.pending < depth + 1) :
    (observers.foldl (notify publish) scene).pending ≤ scene.pending ∧
    ∃ moments, Cascade (observers.map (.notify number)) scene moments
      (observers.foldl (notify publish) scene) := by
  induction observers generalizing scene with
  | nil => exact ⟨Nat.le_refl _, [], .done⟩
  | cons observer observers ih =>
    obtain ⟨fewer, first, begun⟩ := notify_cascade carries number observer room
    obtain ⟨fewer', rest, continued⟩ := ih (Nat.lt_of_le_of_lt fewer room)
    exact ⟨Nat.le_trans fewer' fewer, _, begun.append continued⟩

/-- Pushes that may be nested as deep as there are batches left are never cut short. -/
theorem publishWithin_carries (depth : Nat) : Carries depth (publishWithin (α := α) depth) := by
  induction depth with
  | zero => exact fun scene payload room => absurd room (Nat.not_lt_zero _)
  | succ depth ih =>
    intro scene payload room
    cases pushed : scene.feed.push payload with
    | error refusal =>
      have sets : scene.perform (.push payload) = ([], scene) := by simp only [perform, pushed]
      simp only [publishWithin, pushed, verdict]
      exact ⟨rfl, Nat.le_refl _, _, .one (by rw [sets]; exact .done)⟩
    | ok feed =>
      have sets : scene.perform (.push payload) =
          (feed.observers.map (.notify feed.sequence), { scene with feed }) := by
        simp only [perform, pushed]
      have room : ({ scene with feed } : Scene α).pending < depth + 1 := room
      obtain ⟨fewer, moments, cascade⟩ := foldl_notify_cascade ih feed.sequence feed.observers room
      simp only [publishWithin, pushed, verdict]
      exact ⟨rfl, fewer, _, .one (by rw [sets]; exact cascade)⟩

/-- Every push ends, after a cascade that goes as deep as it needs to. -/
theorem publish_cascade (scene : Scene α) (payload : Payload) :
    (scene.publish payload).1 = scene.feed.verdict payload ∧
    ∃ moments, Cascade [.push payload] scene moments (scene.publish payload).2 := by
  obtain ⟨ends, -, cascade⟩ := publishWithin_carries (scene.pending + 1) scene payload (Nat.lt_succ_self _)
  exact ⟨ends, cascade⟩

/-- Everything that a task can do: a payload is accepted and its notifications are set off, or the slot is
left alone and no notification is set off. -/
inductive Performed (scene : Scene α) : Task α → List (Task α) × Scene α → Prop
  | accepted (payload : Payload) (feed : Feed α) (pushed : scene.feed.push payload = .ok feed) :
      Performed scene (.push payload) (feed.observers.map (.notify feed.sequence), { scene with feed })
  | quiet {task : Task α} (tasks : List (Task α)) (next : Scene α)
      (refused : ∀ payload feed, task = .push payload → scene.feed.push payload ≠ .ok feed)
      (silent : ∀ number observer, .notify number observer ∉ tasks)
      (sequence : next.feed.sequence = scene.feed.sequence) (slot : next.feed.slot = scene.feed.slot)
      (distinct : scene.feed.observers.Nodup → next.feed.observers.Nodup)
      (told : notices next.events = notices scene.events ++ notifications [(scene, task)]) :
      Performed scene task (tasks, next)

theorem performed (scene : Scene α) (task : Task α) : Performed scene task (scene.perform task) := by
  cases task with
  | push payload =>
    cases pushed : scene.feed.push payload with
    | ok feed =>
      simp only [perform, pushed]
      exact .accepted payload feed pushed
    | error refusal =>
      simp only [perform, pushed]
      refine .quiet [] scene ?_ (by simp) rfl rfl id (List.append_nil _).symm
      rintro _ feed ⟨⟩ taken
      cases pushed.symm.trans taken
  | notify number observer =>
    refine .quiet _ _ nofun (by simp) rfl rfl id ?_
    exact notices_log scene _
  | react observer reaction =>
    cases reaction with
    | push payload => exact .quiet _ _ nofun (by simp) rfl rfl id (List.append_nil _).symm
    | subscribe other =>
      have kept : (scene.feed.subscribe other).sequence = scene.feed.sequence ∧
          (scene.feed.subscribe other).slot = scene.feed.slot := by
        unfold Feed.subscribe
        split <;> exact ⟨rfl, rfl⟩
      exact .quiet _ _ nofun (by simp) kept.1 kept.2 (nodup_subscribe · other) (List.append_nil _).symm
    | unsubscribe other =>
      exact .quiet _ _ nofun (by simp) rfl rfl (List.Pairwise.filter _) (List.append_nil _).symm
    | read => exact .quiet _ _ nofun (by simp) rfl rfl id (notices_log scene _)
  | report observer result => exact .quiet _ _ nofun (by simp) rfl rfl id (notices_log scene _)

/-- Whatever a task does, the slot changes only together with the number of the payload in it. -/
theorem sequence_perform (scene : Scene α) (task : Task α) :
    scene.feed.sequence ≤ (scene.perform task).2.feed.sequence ∧
    ((scene.perform task).2.feed.sequence = scene.feed.sequence →
      (scene.perform task).2.feed.slot = scene.feed.slot) := by
  have does := performed scene task
  generalize scene.perform task = outcome at does
  cases does with
  | accepted payload feed pushed =>
    have next : feed.sequence = scene.feed.sequence + 1 := (push_ok pushed).2.1
    simp only
    exact ⟨by omega, fun same => by omega⟩
  | quiet tasks next _ _ sequence slot => exact ⟨Nat.le_of_eq sequence.symm, fun _ => slot⟩

section Cascade

variable {final : Scene α}

theorem Cascade.sequence_le (cascade : Cascade tasks scene moments final) :
    scene.feed.sequence ≤ final.feed.sequence ∧ ∀ moment ∈ moments,
      scene.feed.sequence ≤ moment.1.feed.sequence ∧
      moment.1.feed.sequence ≤ final.feed.sequence := by
  induction cascade with
  | done => exact ⟨Nat.le_refl _, by simp⟩
  | @step task tasks scene final moments _ ih =>
    have grown := (sequence_perform scene task).1
    refine ⟨Nat.le_trans grown ih.1, fun moment member => ?_⟩
    rcases List.mem_cons.mp member with rfl | later
    · exact ⟨Nat.le_refl _, Nat.le_trans grown ih.1⟩
    · exact ⟨Nat.le_trans grown (ih.2 moment later).1, (ih.2 moment later).2⟩

theorem Cascade.slot_eq (cascade : Cascade tasks scene moments final) :
    (final.feed.sequence = scene.feed.sequence → final.feed.slot = scene.feed.slot) ∧
    ∀ moment ∈ moments, moment.1.feed.sequence = scene.feed.sequence →
      moment.1.feed.slot = scene.feed.slot := by
  induction cascade with
  | done => exact ⟨fun _ => rfl, by simp⟩
  | @step task tasks scene final moments rest ih =>
    obtain ⟨grown, kept⟩ := sequence_perform scene task
    obtain ⟨last, between⟩ := rest.sequence_le
    refine ⟨fun same => ?_, fun moment member same => ?_⟩
    · rw [ih.1 (by omega), kept (by omega)]
    · rcases List.mem_cons.mp member with rfl | later
      · rfl
      · have := between moment later
        rw [ih.2 moment later (by omega), kept (by omega)]

theorem Cascade.distinct (cascade : Cascade tasks scene moments final)
    (distinct : scene.feed.observers.Nodup) :
    ∀ moment ∈ moments, moment.1.feed.observers.Nodup := by
  induction cascade with
  | done => simp
  | @step task tasks scene final moments _ ih =>
    have kept : (scene.perform task).2.feed.observers.Nodup := by
      have does := performed scene task
      generalize scene.perform task = outcome at does
      cases does with
      | accepted payload feed pushed => exact (push_ok pushed).2.2 ▸ distinct
      | quiet tasks next _ _ _ _ kept => exact kept distinct
    intro moment member
    rcases List.mem_cons.mp member with rfl | later
    · exact distinct
    · exact ih kept moment later

theorem Cascade.notices_eq (cascade : Cascade tasks scene moments final) :
    notices final.events = notices scene.events ++ notifications moments := by
  induction cascade with
  | done => exact (List.append_nil _).symm
  | @step task tasks scene final moments _ ih =>
    have told : notices (scene.perform task).2.events =
        notices scene.events ++ notifications [(scene, task)] := by
      have does := performed scene task
      generalize scene.perform task = outcome at does
      cases does with
      | accepted => exact (List.append_nil _).symm
      | quiet tasks next _ _ _ _ _ told => exact told
    rw [ih, told, List.append_assoc]
    congr 1
    exact (List.filterMap_append (l := [(scene, task)])).symm

/-- A notification is set off by the push of the payload that it is about. -/
theorem of_notify_mem_perform {task : Task α} {number : Nat} {observer : α}
    (member : .notify number observer ∈ (scene.perform task).1) :
    ∃ payload feed, task = .push payload ∧ scene.feed.push payload = .ok feed ∧
      feed.sequence = number := by
  have does := performed scene task
  generalize scene.perform task = outcome at does member
  cases does with
  | accepted payload feed pushed =>
    obtain ⟨other, -, same⟩ := List.mem_map.mp member
    cases same
    exact ⟨payload, feed, rfl, pushed, rfl⟩
  | quiet tasks next _ silent => exact absurd member (silent number observer)

/-- No task sets off a notification of a payload that had been accepted before. -/
theorem recipients_perform (scene : Scene α) (task : Task α) {number : Nat}
    (old : number ≤ scene.feed.sequence) : recipients number (scene.perform task).1 = [] := by
  refine List.eq_nil_iff_forall_not_mem.mpr fun observer member => ?_
  obtain ⟨payload, feed, -, pushed, rfl⟩ := of_notify_mem_perform (mem_recipients.mp member)
  have := (push_ok pushed).2.1
  omega

theorem perform_accepted {payload : Payload} {feed : Feed α}
    (pushed : scene.feed.push payload = .ok feed) :
    scene.perform (.push payload) =
      (feed.observers.map (.notify feed.sequence), { scene with feed }) := by
  simp only [perform, pushed]

theorem Due.perform {task : Task α} (due : Due scene (task :: tasks)) :
    Due (scene.perform task).2 ((scene.perform task).1 ++ tasks) := by
  intro number observer member
  rcases List.mem_append.mp member with new | waiting
  · obtain ⟨payload, feed, rfl, pushed, rfl⟩ := of_notify_mem_perform new
    exact Nat.le_of_eq (by rw [perform_accepted pushed])
  · exact Nat.le_trans (due number observer (List.mem_cons_of_mem _ waiting))
      (sequence_perform scene task).1

/-- Of a payload that had been accepted before, those are notified that were to be. -/
theorem Cascade.notified_old (cascade : Cascade tasks scene moments final) {number : Nat}
    (old : number ≤ scene.feed.sequence) : notified number moments = recipients number tasks := by
  induction cascade with
  | done => rfl
  | @step task tasks scene final moments _ ih =>
    have grown := (sequence_perform scene task).1
    rw [notified_cons, ih (Nat.le_trans old grown), recipients_append, recipients_perform scene task old,
      List.nil_append, ← recipients_append, List.singleton_append]

/-- The payloads that a cascade accepts are numbered on from those accepted before. -/
theorem Cascade.accepts_between (cascade : Cascade tasks scene moments final) {number : Nat}
    {payload : Payload} {registered : List α} (accepts : Accepts moments number payload registered) :
    scene.feed.sequence < number ∧ number ≤ final.feed.sequence := by
  induction cascade with
  | done => obtain ⟨_, _, member, -⟩ := accepts; cases member
  | @step task tasks scene final moments rest ih =>
    rcases accepts_cons.mp accepts with ⟨feed, rfl, pushed, rfl, rfl⟩ | later
    · have next := (push_ok pushed).2.1
      have last := rest.sequence_le.1
      rw [perform_accepted pushed] at last
      exact ⟨by omega, last⟩
    · obtain ⟨new, bound⟩ := ih later
      exact ⟨Nat.lt_of_le_of_lt (sequence_perform scene task).1 new, bound⟩

/-- Of every accepted payload exactly those are notified that were registered when it was accepted. -/
theorem Cascade.notified_accepted (cascade : Cascade tasks scene moments final)
    (due : Due scene tasks) {number : Nat} {payload : Payload} {registered : List α}
    (accepts : Accepts moments number payload registered) : notified number moments = registered := by
  induction cascade with
  | done => obtain ⟨_, _, member, -⟩ := accepts; cases member
  | @step task tasks scene final moments rest ih =>
    rw [notified_cons]
    rcases accepts_cons.mp accepts with ⟨feed, rfl, pushed, rfl, rfl⟩ | later
    · -- The tasks behind the push are about earlier payloads.
      have new : scene.feed.sequence < feed.sequence := by
        have := (push_ok pushed).2.1
        omega
      rw [perform_accepted pushed] at rest
      rw [rest.notified_old (Nat.le_refl _), recipients_append, recipients_notify]
      have behind : recipients feed.sequence (.push payload :: tasks) = [] := due.recipients_eq_nil new
      rw [← List.singleton_append, recipients_append, List.append_eq_nil_iff] at behind
      rw [behind.1, behind.2, (push_ok pushed).2.2, List.nil_append, List.append_nil]
    · have new := Nat.lt_of_le_of_lt (sequence_perform scene task).1 (rest.accepts_between later).1
      have none : recipients number ([task] ++ tasks) = [] := due.recipients_eq_nil new
      rw [recipients_append, List.append_eq_nil_iff] at none
      rw [none.1, List.nil_append]
      exact ih due.perform later

/-- Whoever is notified is notified of a payload that has been accepted by then. -/
theorem Cascade.caused (cascade : Cascade tasks scene moments final) (due : Due scene tasks)
    {scene' : Scene α} {number : Nat} {observer : α}
    (member : (scene', .notify number observer) ∈ moments) :
    number ≤ scene'.feed.sequence ∧ (.notify number observer ∈ tasks ∨
      ∃ payload registered, Accepts moments number payload registered) := by
  induction cascade with
  | done => cases member
  | @step task tasks scene final moments rest ih =>
    rcases List.mem_cons.mp member with same | later
    · obtain ⟨rfl, rfl⟩ := Prod.mk.inj same
      exact ⟨due number observer List.mem_cons_self, .inl List.mem_cons_self⟩
    · obtain ⟨bound, origin⟩ := ih due.perform later
      refine ⟨bound, ?_⟩
      rcases origin with new | ⟨payload, registered, accepts⟩
      · rcases List.mem_append.mp new with set | waiting
        · obtain ⟨payload, feed, rfl, pushed, rfl⟩ := of_notify_mem_perform set
          exact .inr ⟨payload, _, accepts_cons.mpr (.inl ⟨feed, rfl, pushed, rfl, rfl⟩)⟩
        · exact .inl (List.mem_cons_of_mem _ waiting)
      · exact .inr ⟨payload, registered, accepts_cons.mpr (.inr accepts)⟩

theorem Cascade.slot_accepted (cascade : Cascade tasks scene moments final) {number : Nat}
    {payload : Payload} {registered : List α} (accepts : Accepts moments number payload registered) :
    (final.feed.sequence = number → final.feed.slot = some payload) ∧
    ∀ moment ∈ moments, moment.1.feed.sequence = number → moment.1.feed.slot = some payload := by
  induction cascade with
  | done => obtain ⟨_, _, member, -⟩ := accepts; cases member
  | @step task tasks scene final moments rest ih =>
    have new := (Cascade.accepts_between (.step rest) accepts).1
    rcases accepts_cons.mp accepts with ⟨feed, rfl, pushed, rfl, rfl⟩ | later
    · obtain ⟨slot, next, -⟩ := push_ok pushed
      rw [perform_accepted pushed] at rest
      obtain ⟨last, between⟩ := rest.slot_eq
      refine ⟨fun same => (last same).trans slot, fun moment member same => ?_⟩
      rcases List.mem_cons.mp member with rfl | later
      · simp only at same
        omega
      · exact (between moment later same).trans slot
    · obtain ⟨last, between⟩ := ih later
      refine ⟨last, fun moment member same => ?_⟩
      rcases List.mem_cons.mp member with rfl | later
      · simp only at same
        omega
      · exact between moment later same

/-- The last number stands for a payload that the cascade accepted, unless it accepted none. -/
theorem Cascade.exists_last (cascade : Cascade tasks scene moments final)
    (grown : final.feed.sequence ≠ scene.feed.sequence) :
    ∃ payload registered, Accepts moments final.feed.sequence payload registered := by
  induction cascade with
  | done => exact absurd rfl grown
  | @step task tasks scene final moments rest ih =>
    by_cases more : final.feed.sequence = (scene.perform task).2.feed.sequence
    · have does := performed scene task
      generalize scene.perform task = outcome at does more
      cases does with
      | accepted payload feed pushed =>
        exact ⟨payload, scene.feed.observers, accepts_cons.mpr (.inl ⟨feed, rfl, pushed, more.symm, rfl⟩)⟩
      | quiet tasks next _ _ sequence => exact absurd (more.trans sequence) grown
    · obtain ⟨payload, registered, accepts⟩ := ih more
      exact ⟨payload, registered, accepts_cons.mpr (.inr accepts)⟩

end Cascade

/-- A push with all that it sets off comes to an end, and the log tells of all notifications. Every payload
accepted in its course, by the push itself or by one nested in it, is told to exactly the observers that
were registered when it was accepted, once each and in the order of their registration. A notification is
about an accepted payload, and the slot then holds that one or a later one. The observers of the last
payload accepted are all notified while it is in the slot, where it stays. -/
theorem publish_notifies_registered (scene : Scene α) (payload : Payload)
    (distinct : scene.feed.observers.Nodup) :
    let final := (scene.publish payload).2
    (scene.publish payload).1 = scene.feed.verdict payload ∧
    ∃ moments, Cascade [.push payload] scene moments final ∧
      notices final.events = notices scene.events ++ notifications moments ∧
      (∀ number pushed registered, Accepts moments number pushed registered →
        number ≤ final.feed.sequence ∧ notified number moments = registered ∧ registered.Nodup) ∧
      (∀ scene' number observer, (scene', .notify number observer) ∈ moments →
        number ≤ scene'.feed.sequence ∧
        ∃ pushed registered, Accepts moments number pushed registered) ∧
      (final.feed.sequence ≠ scene.feed.sequence → ∃ last registered,
        Accepts moments final.feed.sequence last registered ∧ final.feed.slot = some last ∧
        ∀ observer ∈ registered, ∃ scene',
          (scene', .notify final.feed.sequence observer) ∈ moments ∧
          scene'.feed.slot = some last) := by
  intro final
  obtain ⟨ends, moments, cascade⟩ := publish_cascade scene payload
  have due : Due scene [.push payload] := fun number observer member => by simp at member
  have caused {scene' : Scene α} {number : Nat} {observer : α}
      (member : (scene', .notify number observer) ∈ moments) := cascade.caused due member
  refine ⟨ends, moments, cascade, cascade.notices_eq, fun number pushed registered accepts => ?_,
    fun scene' number observer member => ?_, fun grown => ?_⟩
  · have all := cascade.notified_accepted due accepts
    have bound := (cascade.accepts_between accepts).2
    obtain ⟨scene', feed, member, taken, rfl, rfl⟩ := accepts
    exact ⟨bound, all, cascade.distinct distinct _ member⟩
  · obtain ⟨bound, first | accepts⟩ := caused member
    · simp at first
    · exact ⟨bound, accepts⟩
  · obtain ⟨last, registered, accepts⟩ := cascade.exists_last grown
    obtain ⟨stays, during⟩ := cascade.slot_accepted accepts
    refine ⟨last, registered, accepts, stays rfl, fun observer member => ?_⟩
    rw [← cascade.notified_accepted due accepts, notified, mem_recipients] at member
    obtain ⟨⟨scene', task⟩, told, rfl⟩ := List.mem_map.mp member
    refine ⟨scene', told, during _ told ?_⟩
    exact Nat.le_antisymm (cascade.sequence_le.2 _ told).2 (caused told).1

/-- Three observers are registered. The first takes the third one off and pushes twice, the second time with
success; that push makes the second observer put a fourth one in its own place. -/
def entangled : Scene Nat where
  feed := ⟨"touches", .touch, none, 0, [1, 2, 3]⟩
  scripts :=
    [(1, [[.unsubscribe 3, .push (.image (.blank 1 1 1)), .push (.touches [])], [.read]]),
      (2, [[.subscribe 4, .unsubscribe 2]])]
  events := []

theorem publish_notifies_registered_entangled :
    entangled.feed.observers.Nodup ∧
    (entangled.publish (.touches [])).2.feed.observers = [1, 4] ∧
    ∃ moments, Cascade [.push (.touches [])] entangled moments (entangled.publish (.touches [])).2 ∧
      notifications moments = [(1, 1), (1, 2), (2, 2), (2, 2), (3, 2)] ∧
      (∀ number pushed registered, Accepts moments number pushed registered →
        number ≤ 2 ∧ notified number moments = registered ∧ registered.Nodup) ∧
      ∃ last registered, Accepts moments 2 last registered ∧
        ∀ observer ∈ registered, ∃ scene', (scene', .notify 2 observer) ∈ moments ∧
          scene'.feed.slot = some last := by
  have distinct : entangled.feed.observers.Nodup := by decide
  obtain ⟨-, moments, cascade, told, heard, -, final⟩ :=
    publish_notifies_registered entangled (.touches []) distinct
  have count : (entangled.publish (.touches [])).2.feed.sequence = 2 := by decide +kernel
  have log : notices (entangled.publish (.touches [])).2.events =
      [(1, 1), (1, 2), (2, 2), (2, 2), (3, 2)] := by decide +kernel
  rw [count] at heard final
  obtain ⟨last, registered, accepts, -, served⟩ := final (by decide)
  exact ⟨distinct, by decide +kernel, moments, cascade, told.symm.trans log, heard, last, registered,
    accepts, served⟩

end Scene
end TouchTracking.Feed
