import TouchTracking.Proofs.Contents

/-! How often a bell is registered on a feed, and what each operation does to that number: those on feeds and
bells first, and then those with which a stage connects and disconnects its inputs. -/
namespace TouchTracking

namespace Fabric

variable {ω : Type}

def registrations (fabric : Fabric ω) (bell : BellId) (id : FeedId) : Nat :=
  match fabric.feed? id with
  | none => 0
  | some feed => feed.observers.count bell

def hasFeed (fabric : Fabric ω) (id : FeedId) : Bool := (fabric.content? id).isSome

theorem hasFeed_of_format {fabric : Fabric ω} {id : FeedId} {format : Feed.Format}
    (known : fabric.format? id = some format) : fabric.hasFeed id = true := by
  obtain ⟨feed, found, -⟩ := Option.map_eq_some_iff.mp known
  rw [hasFeed, content?, found]
  rfl

def hasBell (fabric : Fabric ω) (bell : BellId) : Bool := (fabric.bell? bell).isSome

def Closed (fabric : Fabric ω) : Prop :=
  ∀ feed ∈ fabric.feeds.toList, ∀ bell ∈ feed.observers, bell.index < fabric.bells.size

instance (fabric : Fabric ω) : Decidable fabric.Closed :=
  inferInstanceAs (Decidable (∀ feed ∈ fabric.feeds.toList, ∀ bell ∈ feed.observers, _))

variable (fabric : Fabric ω) (feed id : FeedId) (bell other : BellId)

theorem registrations_subscribe :
    (fabric.subscribe feed bell).registrations bell id =
      if id = feed ∧ fabric.hasFeed id then max 1 (fabric.registrations bell id)
      else fabric.registrations bell id := by
  rw [registrations, subscribe, feed?_modifyFeed, registrations, hasFeed, content?]
  by_cases same : id = feed
  · cases fabric.feed? id with
    | none => simp [same]
    | some target =>
      rw [if_pos same, if_pos ⟨same, rfl⟩]
      simp only [Option.map_some, Feed.subscribe]
      split
      next known =>
        have counted := List.count_pos_iff.mpr known
        omega
      next unknown => simp [List.count_eq_zero.mpr unknown]
  · rw [if_neg same, if_neg fun both => same both.1]

theorem registrations_unsubscribe :
    (fabric.unsubscribe feed bell).registrations bell id =
      if id = feed then 0 else fabric.registrations bell id := by
  rw [registrations, unsubscribe, feed?_modifyFeed, registrations]
  by_cases same : id = feed
  · rw [if_pos same, if_pos same]
    cases fabric.feed? id with
    | none => rfl
    | some target => exact List.count_eq_zero.mpr (by simp [Feed.unsubscribe])
  · rw [if_neg same, if_neg same]

@[simp] theorem registrations_ring :
    (fabric.ring other).registrations bell id = fabric.registrations bell id := rfl

@[simp] theorem registrations_foldl_ring (bells : List BellId) :
    (bells.foldl ring fabric).registrations bell id = fabric.registrations bell id := by
  induction bells generalizing fabric with
  | nil => rfl
  | cons other bells ih => rw [List.foldl_cons, ih, registrations_ring]

@[simp] theorem hasBell_ring : (fabric.ring other).hasBell bell = fabric.hasBell bell := by
  simp only [hasBell, bell?, ring, modifyBell, Array.getElem?_modify]
  split <;> simp

@[simp] theorem hasBell_foldl_ring (bells : List BellId) :
    (bells.foldl ring fabric).hasBell bell = fabric.hasBell bell := by
  induction bells generalizing fabric with
  | nil => rfl
  | cons other bells ih => rw [List.foldl_cons, ih, hasBell_ring]

theorem isRinging_ring :
    (fabric.ring other).isRinging bell =
      (fabric.isRinging bell || (bell == other && fabric.hasBell bell)) := by
  obtain ⟨index⟩ := bell
  obtain ⟨index'⟩ := other
  simp only [isRinging, bell?, ring, modifyBell, hasBell, Array.getElem?_modify]
  by_cases same : index' = index
  · subst same
    cases fabric.bells[index']? <;> simp [Bell.ring]
  · have distinct : (BellId.mk index == BellId.mk index') = false := by simp [Ne.symm same]
    rw [if_neg same, distinct, Bool.false_and, Bool.or_false]

/-- Ringing some bells rings every one of them that exists, and none falls silent. -/
theorem isRinging_foldl_ring (bells : List BellId) :
    (bells.foldl ring fabric).isRinging bell =
      (fabric.isRinging bell || (decide (bell ∈ bells) && fabric.hasBell bell)) := by
  induction bells generalizing fabric with
  | nil => simp
  | cons other bells ih =>
    rw [List.foldl_cons, ih, isRinging_ring, hasBell_ring, List.decide_mem_cons]
    cases fabric.isRinging bell <;> cases fabric.hasBell bell <;> simp

section Push

variable {fabric} {next : Fabric ω} {payload : Payload}

/-- Everything that an accepted push can do. -/
inductive Pushed (fabric : Fabric ω) (id : FeedId) : Fabric ω → Prop
  | nowhere (missing : fabric.feed? id = none) : Pushed fabric id fabric
  | taken (target pushed : Feed BellId) (found : fabric.feed? id = some target)
      (kept : pushed.observers = target.observers) :
      Pushed fabric id (pushed.observers.foldl ring (fabric.modifyFeed id fun _ => pushed))

theorem pushed (accepted : fabric.push feed payload = .ok next) : Pushed fabric feed next := by
  unfold push at accepted
  split at accepted
  next missing => cases accepted; exact .nowhere missing
  next target found =>
    split at accepted
    next => cases accepted
    next pushed taken =>
      cases accepted
      refine .taken target pushed found ?_
      unfold Feed.push at taken
      split at taken
      next => cases taken; rfl
      next => cases taken

theorem registrations_push (accepted : fabric.push feed payload = .ok next) :
    next.registrations bell id = fabric.registrations bell id := by
  cases pushed feed accepted with
  | nowhere => rfl
  | taken target pushed found kept =>
    rw [registrations_foldl_ring, registrations, feed?_modifyFeed, registrations]
    by_cases same : id = feed
    · subst same
      simp [found, kept]
    · rw [if_neg same]

theorem hasBell_push (accepted : fabric.push feed payload = .ok next) :
    next.hasBell bell = fabric.hasBell bell := by
  cases pushed feed accepted with
  | nowhere => rfl
  | taken => rw [hasBell_foldl_ring]; rfl

theorem hasFeed_push (accepted : fabric.push feed payload = .ok next) :
    next.hasFeed id = fabric.hasFeed id := by
  rw [hasFeed, content?_push accepted, hasFeed]
  split
  next same => subst same; simp
  next => rfl

theorem isRinging_push (accepted : fabric.push feed payload = .ok next)
    (known : fabric.hasBell bell) (registered : 0 < fabric.registrations bell feed) :
    next.isRinging bell = true := by
  cases pushed feed accepted with
  | nowhere missing => simp [registrations, missing] at registered
  | taken target pushed found kept =>
    have member : bell ∈ pushed.observers := by
      rw [kept, ← List.count_pos_iff]
      simpa [registrations, found] using registered
    have here : (fabric.modifyFeed feed fun _ => pushed).hasBell bell = true := known
    rw [isRinging_foldl_ring, here, decide_eq_true member, Bool.true_and, Bool.or_true]

end Push

theorem Closed.registrations_eq_zero {fabric : Fabric ω} (closed : fabric.Closed) {bell : BellId}
    (unknown : fabric.bells.size ≤ bell.index) (id : FeedId) :
    fabric.registrations bell id = 0 := by
  unfold registrations
  split
  next => rfl
  next feed found =>
    refine List.count_eq_zero.mpr fun member => ?_
    have listed : feed ∈ fabric.feeds.toList := Array.mem_toList_iff.mpr (Array.mem_of_getElem? found)
    exact Nat.not_lt.mpr unknown (closed feed listed bell member)

theorem registrations_addFeed (name : String) (format : Feed.Format) :
    (fabric.addFeed name format).2.registrations bell id = fabric.registrations bell id := by
  simp only [registrations, feed?, addFeed, Array.getElem?_push]
  by_cases last : id.index = fabric.feeds.size
  · simp [last, Feed.empty]
  · rw [if_neg last]

end Fabric

namespace Core

variable {ω : Type}

theorem registrations_addOutputs (fabric : Fabric ω) (ports : List Port) (bell : BellId)
    (id : FeedId) :
    (addOutputs fabric ports).2.registrations bell id = fabric.registrations bell id := by
  induction ports generalizing fabric with
  | nil => rfl
  | cons port ports ih => rw [addOutputs, ih, Fabric.registrations_addFeed]

theorem hasBell_addOutputs (fabric : Fabric ω) (ports : List Port) (bell : BellId) :
    (addOutputs fabric ports).2.hasBell bell = fabric.hasBell bell := by
  induction ports generalizing fabric with
  | nil => rfl
  | cons port ports ih => rw [addOutputs, ih]; rfl

variable (core : Core) (fabric : Fabric ω) (id : FeedId)

theorem registrations_leave (previous : Option FeedId) :
    (core.leave previous fabric).registrations core.bell id =
      if previous = some id then 0 else fabric.registrations core.bell id := by
  cases previous with
  | none => rfl
  | some feed =>
    rw [leave, Fabric.registrations_unsubscribe]
    simp only [Option.some.injEq, eq_comm]

theorem registrations_join (feed : Option FeedId) :
    (core.join feed fabric).registrations core.bell id =
      if feed = some id ∧ fabric.hasFeed id then max 1 (fabric.registrations core.bell id)
      else fabric.registrations core.bell id := by
  cases feed with
  | none => simp [join]
  | some feed =>
    have subscribed := Fabric.registrations_subscribe fabric feed id core.bell
    simp only [join, Option.some.injEq, eq_comm (a := feed)]
    split
    · rw [Fabric.registrations_ring, subscribed]
    · exact subscribed

theorem hasBell_leave (previous : Option FeedId) (bell : BellId) :
    (core.leave previous fabric).hasBell bell = fabric.hasBell bell := by
  cases previous <;> rfl

theorem hasBell_foldl_leave (inputs : List InputPort) (bell : BellId) :
    (inputs.foldl (fun fabric input => core.leave input.feed fabric) fabric).hasBell bell =
      fabric.hasBell bell := by
  induction inputs generalizing fabric with
  | nil => rfl
  | cons input inputs ih => rw [List.foldl_cons, ih, hasBell_leave]

theorem hasBell_join (feed : Option FeedId) (bell : BellId) :
    (core.join feed fabric).hasBell bell = fabric.hasBell bell := by
  cases feed with
  | none => rfl
  | some feed =>
    simp only [join]
    split
    · rw [Fabric.hasBell_ring]; rfl
    · rfl

variable {core fabric}

/-- An accepted connection: the port exists, its old feed is left, and the new one is joined. -/
theorem setInput_ok {next : Core} {feed : Option FeedId} {port : Nat} {fabric' : Fabric ω}
    (connected : core.setInput feed port fabric = .ok (next, fabric')) :
    core.wiringError? feed port fabric = none ∧ port < core.inputs.length ∧
      next = { core with inputs := core.inputs.modify port ({ · with feed }) } ∧
      fabric' = core.join feed (core.leave (core.input? port) fabric) := by
  unfold setInput at connected
  cases fault : core.wiringError? feed port fabric with
  | some error => rw [fault] at connected; cases connected
  | none =>
    rw [fault] at connected
    cases connected
    refine ⟨rfl, Nat.lt_of_not_le fun outside => ?_, rfl, rfl⟩
    rw [wiringError?, List.getElem?_eq_none outside] at fault
    cases fault

theorem setInput_error {feed : Option FeedId} {port : Nat} {error : WiringError}
    (refused : core.setInput feed port fabric = .error error) :
    core.wiringError? feed port fabric ≠ none := by
  intro fine
  rw [setInput, fine] at refused
  cases refused

theorem input?_modify {feed : Option FeedId} {port : Nat} (inside : port < core.inputs.length)
    (other : Nat) :
    ({ core with inputs := core.inputs.modify port ({ · with feed }) } : Core).input? other =
      if other = port then feed else core.input? other := by
  simp only [input?, List.getElem?_modify]
  by_cases same : other = port
  · subst same
    simp [List.getElem?_eq_getElem inside]
  · rw [if_neg same]
    simp [Ne.symm same]

theorem lt_of_input? {port : Nat} {id : FeedId} (here : core.input? port = some id) :
    port < core.inputs.length := by
  obtain ⟨input, found, -⟩ := Option.bind_eq_some_iff.mp here
  exact (List.getElem?_eq_some_iff.mp found).1

theorem connected_iff_any (core : Core) (id : FeedId) :
    core.inputs.any (·.feed == some id) = true ↔ ∃ port, core.input? port = some id := by
  simp only [List.any_eq_true, beq_iff_eq, input?, Option.bind_eq_some_iff]
  constructor
  · rintro ⟨input, member, same⟩
    obtain ⟨port, found⟩ := List.mem_iff_getElem?.mp member
    exact ⟨port, input, found, same⟩
  · rintro ⟨port, input, found, same⟩
    exact ⟨input, List.mem_of_getElem? found, same⟩

theorem input?_detachFeed (core : Core) (feed : FeedId) (fabric : Fabric ω) (port : Nat)
    (id : FeedId) :
    (core.detachFeed feed fabric).1.input? port = some id ↔ core.input? port = some id ∧ id ≠ feed := by
  unfold detachFeed
  split
  next =>
    simp only [input?, List.getElem?_map]
    cases core.inputs[port]? with
    | none => simp
    | some input =>
      by_cases same : input.feed = some feed
      · simp [same, eq_comm]
      · simp only [Option.map_some, if_neg same, Option.bind_some, iff_self_and]
        rintro here rfl
        exact same here
  next none =>
    rw [Bool.not_eq_true, ← Bool.not_eq_true, connected_iff_any] at none
    simp only [iff_self_and]
    rintro here rfl
    exact none ⟨port, here⟩

theorem bell_detachFeed (core : Core) (feed : FeedId) (fabric : Fabric ω) :
    (core.detachFeed feed fabric).1.bell = core.bell := by
  unfold detachFeed
  split <;> rfl

theorem registrations_detachFeed (core : Core) (feed : FeedId) (fabric : Fabric ω) (id : FeedId) :
    (core.detachFeed feed fabric).2.registrations core.bell id =
      if id = feed ∧ core.inputs.any (·.feed == some feed) then 0
      else fabric.registrations core.bell id := by
  unfold detachFeed
  split
  next shared => simp [Fabric.registrations_unsubscribe, shared]
  next none => simp [none]

theorem registrations_foldl_leave (core : Core) (inputs : List InputPort) (fabric : Fabric ω)
    (id : FeedId) :
    (inputs.foldl (fun fabric input => core.leave input.feed fabric) fabric).registrations
        core.bell id =
      if inputs.any (·.feed == some id) then 0 else fabric.registrations core.bell id := by
  induction inputs generalizing fabric with
  | nil => rfl
  | cons input inputs ih =>
    rw [List.foldl_cons, ih, registrations_leave, List.any_cons]
    by_cases here : input.feed = some id <;> simp [here]

theorem input?_detachInputs (core : Core) (fabric : Fabric ω) (port : Nat) :
    (core.detachInputs fabric).1.input? port = none := by
  simp only [detachInputs, input?, List.getElem?_map]
  cases core.inputs[port]? <;> rfl

end Core

end TouchTracking
