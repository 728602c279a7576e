import TouchTracking.Proofs.Registrations

/-! Where a stage listens. A stage has one bell for all of its inputs, and several of these may be connected to
one feed. The bell is never registered twice on a feed, and never where no input is connected. It is registered
wherever an input is connected as long as no input is taken off a feed that another one goes on sharing: that
takes the bell off for both, and pushes are no longer heard. -/
namespace TouchTracking

/-- A stage's core among feeds. -/
structure Wiring (ω : Type) where
  core : Core
  fabric : Fabric ω

namespace Wiring

/-- What the owner of the stage can ask for, and a push of anyone. -/
inductive Change
  | connect (feed : Option FeedId) (port : Nat)
  | detachFeed (feed : FeedId)
  | detachInputs
  | push (feed : FeedId) (payload : Payload)

variable {ω : Type}

def make (info : StageInfo) (inputs outputs : List Port) (fabric : Fabric ω) : Wiring ω :=
  let (core, fabric) := Core.make info inputs outputs fabric
  ⟨core, fabric⟩

/-- A connection or a push that is refused changes nothing. -/
def act (wiring : Wiring ω) : Change → Wiring ω
  | .connect feed port => match wiring.core.setInput feed port wiring.fabric with
    | .ok (core, fabric) => ⟨core, fabric⟩
    | .error _ => wiring
  | .detachFeed feed =>
    let (core, fabric) := wiring.core.detachFeed feed wiring.fabric
    ⟨core, fabric⟩
  | .detachInputs =>
    let (core, fabric) := wiring.core.detachInputs wiring.fabric
    ⟨core, fabric⟩
  | .push feed payload => match wiring.fabric.push feed payload with
    | .ok fabric => { wiring with fabric }
    | .error _ => wiring

def run (wiring : Wiring ω) : List Change → Wiring ω
  | [] => wiring
  | change :: changes => run (wiring.act change) changes

def input? (wiring : Wiring ω) (port : Nat) : Option FeedId := wiring.core.input? port

def registrations (wiring : Wiring ω) (id : FeedId) : Nat :=
  wiring.fabric.registrations wiring.core.bell id

def Connected (wiring : Wiring ω) (id : FeedId) : Prop := ∃ port, wiring.input? port = some id

instance (wiring : Wiring ω) (id : FeedId) : Decidable (wiring.Connected id) :=
  decidable_of_iff _ (Core.connected_iff_any wiring.core id)

/-- Takes one input off a feed that another input goes on sharing. -/
def Parts (wiring : Wiring ω) : Change → Prop
  | .connect feed port => wiring.core.wiringError? feed port wiring.fabric = none ∧
      wiring.input? port ≠ none ∧ wiring.input? port ≠ feed ∧
      ∃ other < wiring.core.inputs.length, other ≠ port ∧ wiring.input? other = wiring.input? port
  | _ => False

instance (wiring : Wiring ω) : (change : Change) → Decidable (wiring.Parts change)
  | .connect .. => inferInstanceAs (Decidable (_ ∧ _ ∧ _ ∧ _))
  | .detachFeed _ | .detachInputs | .push .. => inferInstanceAs (Decidable False)

/-- Nothing takes an input off a feed that another one goes on sharing. -/
def NeverParts (wiring : Wiring ω) : List Change → Prop
  | [] => True
  | change :: changes => ¬ wiring.Parts change ∧ NeverParts (wiring.act change) changes

instance decidableNeverParts (wiring : Wiring ω) :
    (changes : List Change) → Decidable (wiring.NeverParts changes)
  | [] => inferInstanceAs (Decidable True)
  | change :: changes =>
    have := decidableNeverParts (wiring.act change) changes
    inferInstanceAs (Decidable (_ ∧ _))

/-- Everything that a change can do to connections and registrations. -/
inductive Changed (wiring : Wiring ω) : Change → Wiring ω → Prop
  | kept {change : Change} {next : Wiring ω} (quiet : ¬ wiring.Parts change)
      (inputs : ∀ port, next.input? port = wiring.input? port)
      (registered : ∀ id, next.registrations id = wiring.registrations id) :
      Changed wiring change next
  | connected {feed : Option FeedId} {port : Nat} {next : Wiring ω}
      (accepted : wiring.core.wiringError? feed port wiring.fabric = none)
      (inputs : ∀ other, next.input? other = if other = port then feed else wiring.input? other)
      (left : FeedId → Nat)
      (leaving : ∀ id, left id = if wiring.input? port = some id then 0 else wiring.registrations id)
      (registered : ∀ id, next.registrations id =
        if feed = some id ∧ wiring.fabric.hasFeed id then max 1 (left id) else left id) :
      Changed wiring (.connect feed port) next
  | detached {change : Change} {next : Wiring ω} (dropped : FeedId → Prop)
      (quiet : ¬ wiring.Parts change)
      (inputs : ∀ port id, next.input? port = some id ↔ wiring.input? port = some id ∧ ¬ dropped id)
      (registered : ∀ id, next.registrations id =
        wiring.registrations id ∧ (dropped id → ¬ wiring.Connected id) ∨
        next.registrations id = 0 ∧ dropped id) :
      Changed wiring change next

theorem changed (wiring : Wiring ω) (change : Change) :
    Changed wiring change (wiring.act change) := by
  cases change with
  | connect feed port =>
    simp only [act]
    split
    next core fabric done =>
      obtain ⟨accepted, inside, rfl, rfl⟩ := Core.setInput_ok done
      refine .connected accepted (Core.input?_modify inside)
        (fun id => (wiring.core.leave (wiring.core.input? port) wiring.fabric).registrations
          wiring.core.bell id)
        (fun id => Core.registrations_leave ..) fun id => ?_
      have joined := Core.registrations_join wiring.core
        (wiring.core.leave (wiring.core.input? port) wiring.fabric) id feed
      rwa [Fabric.hasFeed, Core.content?_leave, ← Fabric.hasFeed] at joined
    next refused =>
      exact .kept (fun parts => Core.setInput_error refused parts.1) (fun _ => rfl) fun _ => rfl
  | detachFeed feed =>
    refine .detached (· = feed) id (Core.input?_detachFeed wiring.core feed wiring.fabric) fun id => ?_
    simp only [act, registrations, Core.bell_detachFeed, Core.registrations_detachFeed]
    split
    next dropped => exact .inr ⟨rfl, dropped.1⟩
    next kept =>
      refine .inl ⟨rfl, fun same connected => kept ⟨same, ?_⟩⟩
      exact (Core.connected_iff_any ..).mpr (same ▸ connected)
  | detachInputs =>
    refine .detached (fun _ => True) id (fun port id => ?_) fun id => ?_
    · have none : (wiring.act .detachInputs).input? port = none :=
        Core.input?_detachInputs wiring.core wiring.fabric port
      simp [none]
    · have left : (wiring.act .detachInputs).registrations id = _ :=
        Core.registrations_foldl_leave wiring.core wiring.core.inputs wiring.fabric id
      rw [left]
      split
      next => exact .inr ⟨rfl, trivial⟩
      next none => exact .inl ⟨rfl, fun _ connected => none ((Core.connected_iff_any ..).mpr connected)⟩
  | push feed payload =>
    simp only [act]
    split
    next fabric accepted =>
      exact .kept (fun parts => parts) (fun _ => rfl) fun id =>
        Fabric.registrations_push feed id wiring.core.bell accepted
    next => exact .kept (fun parts => parts) (fun _ => rfl) fun _ => rfl

theorem act_keeps (wiring : Wiring ω) (change : Change) :
    (wiring.act change).core.bell = wiring.core.bell ∧
    (wiring.act change).fabric.hasBell wiring.core.bell = wiring.fabric.hasBell wiring.core.bell ∧
    ∀ id, (wiring.act change).fabric.hasFeed id = wiring.fabric.hasFeed id := by
  cases change with
  | connect feed port =>
    simp only [act]
    split
    next core fabric done =>
      have content := Core.content?_setInput done
      obtain ⟨-, -, rfl, rfl⟩ := Core.setInput_ok done
      refine ⟨rfl, ?_, fun id => ?_⟩
      · rw [Core.hasBell_join, Core.hasBell_leave]
      · rw [Fabric.hasFeed, content, Fabric.hasFeed]
    next => exact ⟨rfl, rfl, fun _ => rfl⟩
  | detachFeed feed =>
    refine ⟨?_, ?_, fun id => ?_⟩
    · exact Core.bell_detachFeed ..
    · simp only [act, Core.detachFeed]
      split <;> rfl
    · simp only [act, Fabric.hasFeed, Core.content?_detachFeed]
  | detachInputs =>
    refine ⟨rfl, ?_, fun id => ?_⟩
    · exact Core.hasBell_foldl_leave ..
    · simp only [act, Fabric.hasFeed, Core.content?_detachInputs]
  | push feed payload =>
    simp only [act]
    split
    next fabric accepted =>
      exact ⟨rfl, Fabric.hasBell_push feed _ accepted, fun id => Fabric.hasFeed_push feed id accepted⟩
    next => exact ⟨rfl, rfl, fun _ => rfl⟩

/-- The bell is registered once at most, and only where an input is connected. -/
structure Sound (wiring : Wiring ω) : Prop where
  once : ∀ id, wiring.registrations id ≤ 1
  connected : ∀ id, 0 < wiring.registrations id → wiring.Connected id

/-- The bell is registered wherever an input is connected. -/
def Hears (wiring : Wiring ω) : Prop :=
  ∀ id, wiring.fabric.hasFeed id = true → wiring.Connected id → 0 < wiring.registrations id

theorem sound_changed {wiring next : Wiring ω} {change : Change} (sound : Sound wiring)
    (changed : Changed wiring change next) : Sound next := by
  cases changed with
  | kept _ inputs registered =>
    refine ⟨fun id => registered id ▸ sound.once id, fun id positive => ?_⟩
    obtain ⟨port, here⟩ := sound.connected id (registered id ▸ positive)
    exact ⟨port, (inputs port).trans here⟩
  | @connected feed port _ _ inputs left leaving registered =>
    have fewer (id : FeedId) : left id ≤ 1 := by
      rw [leaving]
      split
      · exact Nat.zero_le 1
      · exact sound.once id
    refine ⟨fun id => ?_, fun id positive => ?_⟩
    · have few := fewer id
      rw [registered]
      split <;> omega
    · rw [registered] at positive
      by_cases joined : feed = some id
      · exact ⟨port, by rw [inputs, if_pos rfl, joined]⟩
      · rw [if_neg fun both => joined both.1, leaving] at positive
        split at positive
        next => omega
        next elsewhere =>
          obtain ⟨other, here⟩ := sound.connected id positive
          refine ⟨other, ?_⟩
          rw [inputs, if_neg]
          · exact here
          · rintro rfl
            exact elsewhere here
  | detached dropped _ inputs registered =>
    refine ⟨fun id => ?_, fun id positive => ?_⟩
    · rcases registered id with ⟨same, -⟩ | ⟨none, -⟩
      · exact same ▸ sound.once id
      · omega
    · rcases registered id with ⟨same, only⟩ | ⟨none, -⟩
      · have connected := sound.connected id (same ▸ positive)
        obtain ⟨port, here⟩ := connected
        exact ⟨port, (inputs port id).mpr ⟨here, fun gone => only gone ⟨port, here⟩⟩⟩
      · omega

theorem hears_changed {wiring next : Wiring ω} {change : Change} (hears : Hears wiring)
    (same : ∀ id, next.fabric.hasFeed id = wiring.fabric.hasFeed id)
    (together : ¬ wiring.Parts change) (changed : Changed wiring change next) : Hears next := by
  intro id present connected
  rw [same] at present
  obtain ⟨other, there⟩ := connected
  cases changed with
  | kept _ inputs registered =>
    rw [registered]
    exact hears id present ⟨other, (inputs other).symm.trans there⟩
  | @connected feed port _ accepted inputs left leaving registered =>
    rw [registered]
    by_cases joined : feed = some id
    · rw [if_pos ⟨joined, present⟩]
      omega
    · rw [inputs] at there
      split at there
      next => exact absurd there joined
      next elsewhere =>
        rw [if_neg fun both => joined both.1, leaving, if_neg]
        · exact hears id present ⟨other, there⟩
        · intro shared
          refine together ⟨accepted, ?_, ?_, other, Core.lt_of_input? there, elsewhere, ?_⟩ <;>
            rw [shared]
          · exact Option.some_ne_none id
          · exact Ne.symm joined
          · exact there
  | detached dropped _ inputs registered =>
    obtain ⟨here, stays⟩ := (inputs other id).mp there
    rcases registered id with ⟨same, -⟩ | ⟨-, gone⟩
    · rw [same]
      exact hears id present ⟨other, here⟩
    · exact absurd gone stays

/-- An input that is taken off a shared feed takes the bell with it. -/
theorem unheard_of_parts {wiring next : Wiring ω} {change : Change} (parts : wiring.Parts change)
    (changed : Changed wiring change next) : ∃ id, next.Connected id ∧ next.registrations id = 0 := by
  cases changed with
  | kept quiet => exact absurd parts quiet
  | detached _ quiet => exact absurd parts quiet
  | connected _ inputs left leaving registered =>
    obtain ⟨-, connected, elsewhere, other, -, distinct, there⟩ := parts
    obtain ⟨id, here⟩ := Option.ne_none_iff_exists'.mp connected
    refine ⟨id, ⟨other, ?_⟩, ?_⟩
    · rw [inputs, if_neg distinct, there, here]
    · rw [registered, if_neg fun both => elsewhere (here.trans both.1.symm), leaving, if_pos here]

theorem run_sound {wiring : Wiring ω} (sound : Sound wiring) (changes : List Change) :
    Sound (wiring.run changes) := by
  induction changes generalizing wiring with
  | nil => exact sound
  | cons change changes ih => exact ih (sound_changed sound (changed wiring change))

theorem run_hears {wiring : Wiring ω} (hears : Hears wiring) {changes : List Change}
    (together : wiring.NeverParts changes) : Hears (wiring.run changes) := by
  induction changes generalizing wiring with
  | nil => exact hears
  | cons change changes ih =>
    obtain ⟨first, rest⟩ := together
    exact ih (hears_changed hears (act_keeps wiring change).2.2 first (changed wiring change)) rest

theorem run_hasBell {wiring : Wiring ω} (known : wiring.fabric.hasBell wiring.core.bell = true)
    (changes : List Change) :
    (wiring.run changes).fabric.hasBell (wiring.run changes).core.bell = true := by
  induction changes generalizing wiring with
  | nil => exact known
  | cons change changes ih =>
    obtain ⟨bell, kept, -⟩ := act_keeps wiring change
    exact ih (by rw [bell, kept, known])

theorem make_unwired {fabric : Fabric ω} (closed : fabric.Closed) (info : StageInfo)
    (inputs outputs : List Port) :
    (∀ id, (make info inputs outputs fabric).registrations id = 0) ∧
    (∀ id, ¬ (make info inputs outputs fabric).Connected id) ∧
    (make info inputs outputs fabric).fabric.hasBell (make info inputs outputs fabric).core.bell =
      true := by
  refine ⟨fun id => ?_, ?_, ?_⟩
  · simp only [make, Core.make, registrations, Core.registrations_addOutputs]
    exact closed.registrations_eq_zero (Nat.le_refl _) id
  · rintro id ⟨port, here⟩
    simp only [make, Core.make, input?, Core.input?, List.getElem?_map] at here
    cases found : inputs[port]? <;> simp [found] at here
  · simp only [make, Core.make, Core.hasBell_addOutputs]
    simp [Fabric.addBell, Fabric.hasBell, Fabric.bell?]

/-- In every reachable state the bell is registered once at most on a feed, and not at all where no input
is connected. As long as no input was taken off a feed that another one went on sharing, it is registered
wherever an input is connected, so that every accepted push there rings it. And whenever an input is taken
off a shared feed, the bell is missing there. -/
theorem registered_where_connected {fabric : Fabric ω} (closed : fabric.Closed) (info : StageInfo)
    (inputs outputs : List Port) (changes : List Change) :
    let wiring := (make info inputs outputs fabric).run changes
    (∀ id, wiring.registrations id ≤ 1 ∧ (¬ wiring.Connected id → wiring.registrations id = 0)) ∧
    ((make info inputs outputs fabric).NeverParts changes →
      ∀ id, wiring.fabric.hasFeed id = true → wiring.Connected id →
        wiring.registrations id = 1 ∧
        ∀ payload next, wiring.fabric.push id payload = .ok next →
          next.isRinging wiring.core.bell = true) ∧
    ∀ change, wiring.Parts change →
      ∃ id, (wiring.act change).Connected id ∧ (wiring.act change).registrations id = 0 := by
  intro wiring
  obtain ⟨silent, loose, known⟩ := make_unwired closed info inputs outputs
  have sound : Sound wiring := run_sound
    ⟨fun id => by rw [silent]; exact Nat.zero_le 1, fun id positive => by rw [silent] at positive; omega⟩
    changes
  refine ⟨fun id => ⟨sound.once id, fun loose => ?_⟩, fun together id present connected => ?_,
    fun change parts => unheard_of_parts parts (changed wiring change)⟩
  · exact Nat.eq_zero_of_not_pos fun positive => loose (sound.connected id positive)
  · have hears : Hears wiring := run_hears (fun id _ connected => absurd connected (loose id)) together
    have registered := hears id present connected
    refine ⟨Nat.le_antisymm (sound.once id) registered, fun payload next accepted => ?_⟩
    exact Fabric.isRinging_push id _ accepted (run_hasBell known changes) registered

def twoFeeds : Fabric Unit :=
  (((Fabric.empty ()).addFeed "first" .image).2.addFeed "second" .image).2

def pair : Wiring Unit :=
  make ⟨"Pair", "", ""⟩ [⟨"left", .image, ""⟩, ⟨"right", .image, ""⟩] [] twoFeeds

/-- Both inputs share a feed until they are taken off it together. -/
def sharedThenDropped : List Change :=
  [.connect (some ⟨0⟩) 0, .connect (some ⟨0⟩) 1, .connect (some ⟨1⟩) 7, .push ⟨0⟩ (.touches []),
    .detachFeed ⟨0⟩, .connect (some ⟨1⟩) 1]

theorem registered_where_connected_sharedThenDropped :
    twoFeeds.Closed ∧ pair.NeverParts sharedThenDropped ∧
    (pair.run sharedThenDropped).registrations ⟨0⟩ = 0 ∧
    (pair.run sharedThenDropped).input? 1 = some ⟨1⟩ ∧
    (pair.run sharedThenDropped).registrations ⟨1⟩ = 1 ∧
    ∀ payload next, (pair.run sharedThenDropped).fabric.push ⟨1⟩ payload = .ok next →
      next.isRinging (pair.run sharedThenDropped).core.bell = true := by
  have closed : twoFeeds.Closed := by decide
  have together : pair.NeverParts sharedThenDropped := by decide +kernel
  have connected : (pair.run sharedThenDropped).input? 1 = some ⟨1⟩ := by decide +kernel
  obtain ⟨bounds, heard, -⟩ := registered_where_connected closed
    ⟨"Pair", "", ""⟩ [⟨"left", .image, ""⟩, ⟨"right", .image, ""⟩] [] sharedThenDropped
  obtain ⟨once, ringing⟩ := heard together ⟨1⟩ (by decide +kernel) ⟨1, connected⟩
  exact ⟨closed, together, (bounds ⟨0⟩).2 (by decide +kernel), connected, once, ringing⟩

/-- Of two inputs that share a feed one is taken off it. -/
def sharedThenParted : List Change :=
  [.connect (some ⟨0⟩) 0, .connect (some ⟨0⟩) 1, .connect none 0]

/-- The second input is still connected, but the bell is not registered and a push does not ring it. -/
theorem unheard_sharedThenParted :
    (pair.run sharedThenParted).input? 1 = some ⟨0⟩ ∧
    (pair.run sharedThenParted).registrations ⟨0⟩ = 0 ∧
    ((pair.run sharedThenParted).fabric.push ⟨0⟩ (.image (.blank 1 1 1))).toOption.map
      (·.isRinging (pair.run sharedThenParted).core.bell) = some false := by
  decide +kernel

end Wiring
end TouchTracking
