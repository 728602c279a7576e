import TouchTracking.Stage.Wiring

/-! What the feeds hold. Only an accepted push changes it: bells, registrations and connections leave
every payload and every count as they are. -/
namespace TouchTracking

namespace Fabric

variable {ω : Type}

/-- The payload of a feed and the count of those accepted so far. -/
def content? (fabric : Fabric ω) (id : FeedId) : Option (Option Payload × Nat) :=
  (fabric.feed? id).map fun feed => (feed.slot, feed.sequence)

@[simp] theorem content?_ring (fabric : Fabric ω) (bell : BellId) (id : FeedId) :
    (fabric.ring bell).content? id = fabric.content? id := rfl

@[simp] theorem content?_silence (fabric : Fabric ω) (bell : BellId) (id : FeedId) :
    (fabric.silence bell).content? id = fabric.content? id := rfl

@[simp] theorem content?_foldl_ring (fabric : Fabric ω) (bells : List BellId) (id : FeedId) :
    (bells.foldl ring fabric).content? id = fabric.content? id := by
  induction bells generalizing fabric with
  | nil => rfl
  | cons bell bells ih => rw [List.foldl_cons, ih, content?_ring]

theorem feed?_modifyFeed (fabric : Fabric ω) (id other : FeedId)
    (change : Feed BellId → Feed BellId) :
    (fabric.modifyFeed id change).feed? other =
      if other = id then (fabric.feed? other).map change else fabric.feed? other := by
  obtain ⟨index⟩ := id
  obtain ⟨index'⟩ := other
  simp only [modifyFeed, feed?, Array.getElem?_modify, FeedId.mk.injEq, eq_comm]

theorem content?_modifyFeed (fabric : Fabric ω) (id other : FeedId)
    {change : Feed BellId → Feed BellId}
    (kept : ∀ feed, (change feed).slot = feed.slot ∧ (change feed).sequence = feed.sequence) :
    (fabric.modifyFeed id change).content? other = fabric.content? other := by
  rw [content?, feed?_modifyFeed, content?]
  split
  · rw [Option.map_map]
    congr 1
    funext feed
    exact Prod.ext (kept feed).1 (kept feed).2
  · rfl

@[simp] theorem content?_subscribe (fabric : Fabric ω) (feed : FeedId) (bell : BellId)
    (id : FeedId) : (fabric.subscribe feed bell).content? id = fabric.content? id := by
  refine content?_modifyFeed fabric feed id fun feed => ?_
  unfold Feed.subscribe
  split <;> exact ⟨rfl, rfl⟩

@[simp] theorem content?_unsubscribe (fabric : Fabric ω) (feed : FeedId) (bell : BellId)
    (id : FeedId) : (fabric.unsubscribe feed bell).content? id = fabric.content? id :=
  content?_modifyFeed fabric feed id fun _ => ⟨rfl, rfl⟩

def slot? (fabric : Fabric ω) (id : FeedId) : Option Payload :=
  (fabric.content? id).bind Prod.fst

theorem content?_push {fabric next : Fabric ω} {id : FeedId} {payload : Payload}
    (accepted : fabric.push id payload = .ok next) (other : FeedId) :
    next.content? other =
      if other = id then (fabric.content? id).map fun content => (some payload, content.2 + 1)
      else fabric.content? other := by
  unfold push at accepted
  split at accepted
  next missing =>
    cases accepted
    by_cases same : other = id
    · subst same
      simp [content?, missing]
    · rw [if_neg same]
  next feed present =>
    split at accepted
    next => cases accepted
    next pushed taken =>
      cases accepted
      have holds : pushed.slot = some payload ∧ pushed.sequence = feed.sequence + 1 := by
        unfold Feed.push at taken
        split at taken
        next => cases taken; exact ⟨rfl, rfl⟩
        next => cases taken
      rw [content?_foldl_ring, content?, feed?_modifyFeed]
      by_cases same : other = id
      · subst same
        simp [content?, present, holds]
      · rw [if_neg same, if_neg same, content?]

def format? (fabric : Fabric ω) (id : FeedId) : Option Feed.Format := (fabric.feed? id).map Feed.format

theorem format?_modifyFeed (fabric : Fabric ω) (id other : FeedId) {change : Feed BellId → Feed BellId}
    (kept : ∀ feed, fabric.feed? id = some feed → (change feed).format = feed.format) :
    (fabric.modifyFeed id change).format? other = fabric.format? other := by
  rw [format?, feed?_modifyFeed, format?]
  split
  next same =>
    subst same
    cases found : fabric.feed? other with
    | none => rfl
    | some feed => exact congrArg some (kept feed found)
  next => rfl

@[simp] theorem format?_subscribe (fabric : Fabric ω) (feed : FeedId) (bell : BellId) (id : FeedId) :
    (fabric.subscribe feed bell).format? id = fabric.format? id := by
  refine format?_modifyFeed fabric feed id fun feed _ => ?_
  unfold Feed.subscribe
  split <;> rfl

@[simp] theorem format?_foldl_ring (fabric : Fabric ω) (bells : List BellId) (id : FeedId) :
    (bells.foldl ring fabric).format? id = fabric.format? id := by
  induction bells generalizing fabric with
  | nil => rfl
  | cons bell bells ih =>
    rw [List.foldl_cons, ih]
    rfl

theorem format?_push {fabric next : Fabric ω} {id : FeedId} {payload : Payload}
    (accepted : fabric.push id payload = .ok next) (other : FeedId) :
    next.format? other = fabric.format? other := by
  unfold push at accepted
  split at accepted
  next => cases accepted; rfl
  next feed present =>
    split at accepted
    next => cases accepted
    next pushed taken =>
      cases accepted
      rw [format?_foldl_ring]
      refine format?_modifyFeed fabric id other fun old found => ?_
      cases found.symm.trans present
      unfold Feed.push at taken
      split at taken
      next => cases taken; rfl
      next => cases taken

theorem push_of_format {fabric : Fabric ω} {id : FeedId} (payload : Payload)
    (fits : fabric.format? id = some payload.format) : ∃ next, fabric.push id payload = .ok next := by
  obtain ⟨feed, found, same⟩ := Option.map_eq_some_iff.mp fits
  simp only [push, found, Feed.push, if_pos same.symm]
  exact ⟨_, rfl⟩

/-- The touches that a feed has come to show between two moments, if a payload was accepted. -/
def arrived (before after : Fabric ω) (id : FeedId) : List Touch :=
  if (after.content? id).map Prod.snd = (before.content? id).map Prod.snd then []
  else ((after.slot? id).bind Payload.touches?).getD []

/-- After an accepted push every feed holds what it held before, or the payload. -/
theorem slot?_push {fabric next : Fabric ω} {id : FeedId} {payload : Payload}
    (accepted : fabric.push id payload = .ok next) (other : FeedId) :
    next.content? other = fabric.content? other ∨ next.slot? other = some payload := by
  rw [slot?, content?_push accepted]
  split
  next same =>
    subst same
    cases fabric.content? other with
    | none => exact .inl rfl
    | some content => exact .inr rfl
  next => exact .inl rfl

end Fabric

namespace Core

variable {ω : Type}

@[simp] theorem content?_leave (core : Core) (feed : Option FeedId) (fabric : Fabric ω)
    (id : FeedId) : (core.leave feed fabric).content? id = fabric.content? id := by
  cases feed with
  | none => rfl
  | some feed => exact Fabric.content?_unsubscribe ..

@[simp] theorem content?_join (core : Core) (feed : Option FeedId) (fabric : Fabric ω)
    (id : FeedId) : (core.join feed fabric).content? id = fabric.content? id := by
  cases feed with
  | none => rfl
  | some feed =>
    simp only [join]
    split
    · rw [Fabric.content?_ring, Fabric.content?_subscribe]
    · exact Fabric.content?_subscribe ..

@[simp] theorem format?_leave (core : Core) (feed : Option FeedId) (fabric : Fabric ω) (id : FeedId) :
    (core.leave feed fabric).format? id = fabric.format? id := by
  cases feed with
  | none => rfl
  | some feed => exact Fabric.format?_modifyFeed fabric feed id fun _ _ => rfl

@[simp] theorem format?_join (core : Core) (feed : Option FeedId) (fabric : Fabric ω) (id : FeedId) :
    (core.join feed fabric).format? id = fabric.format? id := by
  cases feed with
  | none => rfl
  | some feed =>
    have subscribed := Fabric.format?_subscribe fabric feed core.bell id
    simp only [join]
    split <;> exact subscribed

theorem content?_setInput {core next : Core} {feed : Option FeedId} {port : Nat}
    {fabric fabric' : Fabric ω} (connected : core.setInput feed port fabric = .ok (next, fabric'))
    (id : FeedId) : fabric'.content? id = fabric.content? id := by
  unfold setInput at connected
  split at connected
  next => cases connected
  next =>
    cases connected
    rw [content?_join, content?_leave]

theorem format?_setInput {core next : Core} {feed : Option FeedId} {port : Nat}
    {fabric fabric' : Fabric ω} (connected : core.setInput feed port fabric = .ok (next, fabric'))
    (id : FeedId) : fabric'.format? id = fabric.format? id := by
  unfold setInput at connected
  split at connected
  next => cases connected
  next =>
    cases connected
    rw [format?_join, format?_leave]

theorem content?_detachInputs (core : Core) (fabric : Fabric ω) (id : FeedId) :
    (core.detachInputs fabric).2.content? id = fabric.content? id := by
  simp only [detachInputs]
  generalize core.inputs = inputs
  induction inputs generalizing fabric with
  | nil => rfl
  | cons input inputs ih => rw [List.foldl_cons, ih, content?_leave]

theorem content?_detachFeed (core : Core) (feed : FeedId) (fabric : Fabric ω) (id : FeedId) :
    (core.detachFeed feed fabric).2.content? id = fabric.content? id := by
  unfold detachFeed
  split
  · exact Fabric.content?_unsubscribe ..
  · rfl

theorem format?_detachInputs (core : Core) (fabric : Fabric ω) (id : FeedId) :
    (core.detachInputs fabric).2.format? id = fabric.format? id := by
  simp only [detachInputs]
  generalize core.inputs = inputs
  induction inputs generalizing fabric with
  | nil => rfl
  | cons input inputs ih => rw [List.foldl_cons, ih, format?_leave]

theorem format?_detachFeed (core : Core) (feed : FeedId) (fabric : Fabric ω) (id : FeedId) :
    (core.detachFeed feed fabric).2.format? id = fabric.format? id := by
  unfold detachFeed
  split
  · exact Fabric.format?_modifyFeed fabric feed id fun _ _ => rfl
  · rfl

/-- A write to a property changes nothing else of the stage than its latest failure, and nothing else around it than
the name on the bell. -/
theorem setProperty_same (core : Core) (name : String) (value : Property.Value) (fabric : Fabric ω) :
    let written := (core.setProperty name value fabric).2
    (∃ properties lastFailure, written.1 = { core with properties, lastFailure }) ∧ written.2.feeds = fabric.feeds := by
  unfold setProperty
  split
  next core' fabric' written =>
    unfold writeProperty assignId lockId at written
    repeat' split at written
    all_goals cases written
    all_goals exact ⟨⟨_, _, rfl⟩, rfl⟩
  next => exact ⟨⟨_, _, rfl⟩, rfl⟩

theorem content?_setProperty (core : Core) (name : String) (value : Property.Value)
    (fabric : Fabric ω) (id : FeedId) :
    (core.setProperty name value fabric).2.2.content? id = fabric.content? id := by
  simp only [Fabric.content?, Fabric.feed?, (core.setProperty_same name value fabric).2]

end Core
end TouchTracking
