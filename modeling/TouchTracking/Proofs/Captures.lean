import TouchTracking.Proofs.Bags
import TouchTracking.Proofs.Handling

/-! What a source puts out. It asks its camera for one frame in every step that it makes while it is started, and asks
for none otherwise. The frames that it gets are put out at once, in their order, and nothing else is; a failure of the
camera is kept and changes nothing else. That holds of any camera, whatever it gives and whenever, and of any order in
which a source is started, stopped and made to step. -/
namespace TouchTracking

open Raster (Image)

namespace Fabric

variable {ω : Type}

theorem surroundings_foldl_ring (fabric : Fabric ω) (bells : List BellId) :
    (bells.foldl ring fabric).surroundings = fabric.surroundings := by
  induction bells generalizing fabric with
  | nil => rfl
  | cons bell bells ih => exact ih (fabric.ring bell)

theorem surroundings_push {fabric next : Fabric ω} {id : FeedId} {payload : Payload}
    (accepted : fabric.push id payload = .ok next) : next.surroundings = fabric.surroundings := by
  cases pushed id accepted with
  | nowhere => rfl
  | taken => exact surroundings_foldl_ring ..

end Fabric

namespace Source

variable {ω κ : Type}

/-- Something that a camera was asked for, and what came of it. -/
inductive Exchange
  | opened (result : Except Failure Unit)
  | captured (result : Except Failure (Option Image))
  | released

def Exchange.frame? : Exchange → Option Image
  | .captured (.ok frame?) => frame?
  | .captured (.error _) | .opened _ | .released => none

/-- What asking a camera once makes of it and its surroundings. -/
inductive Asked [Camera ω κ] (bag : PropertyBag) : κ → ω → Exchange → κ → ω → Prop
  | opened {camera next : κ} {before after : ω} {result : Except Failure Unit}
      (asked : Camera.openWith camera bag before = (result, next, after)) :
      Asked bag camera before (.opened result) next after
  | captured {camera next : κ} {before after : ω} {result : Except Failure (Option Image)}
      (asked : Camera.capture camera before = (result, next, after)) :
      Asked bag camera before (.captured result) next after
  | released {camera next : κ} {before after : ω} (asked : Camera.release camera before = (next, after)) :
      Asked bag camera before .released next after

/-- What asking a camera several times, for one thing after the other, makes of it and its surroundings. -/
inductive Consulted [Camera ω κ] (bag : PropertyBag) : κ → ω → List Exchange → κ → ω → Prop
  | never {camera : κ} {surroundings : ω} : Consulted bag camera surroundings [] camera surroundings
  | again {camera middle next : κ} {before between after : ω} {exchange : Exchange} {exchanges : List Exchange}
      (first : Asked bag camera before exchange middle between)
      (others : Consulted bag middle between exchanges next after) :
      Consulted bag camera before (exchange :: exchanges) next after

theorem Asked.consulted [Camera ω κ] {bag : PropertyBag} {camera next : κ} {before after : ω} {exchange : Exchange}
    (asked : Asked bag camera before exchange next after) : Consulted bag camera before [exchange] next after :=
  .again asked .never

theorem Consulted.trans [Camera ω κ] {bag : PropertyBag} {camera middle next : κ} {before between after : ω}
    {exchanges more : List Exchange} (first : Consulted bag camera before exchanges middle between)
    (second : Consulted bag middle between more next after) :
    Consulted bag camera before (exchanges ++ more) next after := by
  induction first with
  | never => exact second
  | again asked _ ih => exact .again asked (ih second)

/-- What leaves the surroundings and a feed alone; bells may be registered and rung, and other feeds pushed on. -/
structure Bystander (feed : FeedId) (fabric after : Fabric ω) : Prop where
  surroundings : after.surroundings = fabric.surroundings
  format : after.format? feed = fabric.format? feed
  content : after.content? feed = fabric.content? feed

/-- What can be done to a source by its owner, and aside from that what others do, who leave its output alone. -/
inductive Command (ω : Type) (feed : FeedId)
  | start
  | stop
  | poll
  | takeFailure
  | aside (change : Fabric ω → Fabric ω) (kept : ∀ fabric, Bystander feed fabric (change fabric))

inductive Answer
  | started (result : Except Failure Unit)
  | stopped
  | polled (worked : Bool)
  | taken (failure : Option Failure)
  | nothing

def Answer.worked : Answer → Bool
  | .polled worked => worked
  | .started _ | .stopped | .taken _ | .nothing => false

def obey [Camera ω κ] {feed : FeedId} (stage : Stage (Source κ)) (fabric : Fabric ω) :
    Command ω feed → Answer × Stage (Source κ) × Fabric ω
  | .start =>
    let (result, stage, fabric) := stage.start fabric
    (.started result, stage, fabric)
  | .stop =>
    let (stage, fabric) := stage.stop fabric
    (.stopped, stage, fabric)
  | .poll =>
    let (worked, stage, fabric) := Behaviour.poll stage fabric
    (.polled worked, stage, fabric)
  | .takeFailure =>
    (.taken stage.core.lastFailure, { stage with core := { stage.core with lastFailure := none } }, fabric)
  | .aside change _ => (.nothing, stage, change fabric)

/-- The payload that the output shows, and the count of those that it has taken. -/
def shown? (stage : Stage (Source κ)) (fabric : Fabric ω) : Option (Option Payload × Nat) :=
  (stage.core.output? 0).bind fabric.content?

/-- Command by command, what the owner is told and what the output shows then; and what it all ends with. -/
def obeyAll [Camera ω κ] {feed : FeedId} (stage : Stage (Source κ)) (fabric : Fabric ω) :
    List (Command ω feed) → List (Answer × Option (Option Payload × Nat)) × Stage (Source κ) × Fabric ω
  | [] => ([], stage, fabric)
  | command :: commands =>
    let (answer, stage, fabric) := obey stage fabric command
    let (rest, next, after) := obeyAll stage fabric commands
    ((answer, shown? stage fabric) :: rest, next, after)

/-- What is known of a source: whether it is started, the failure that it keeps, and the frames that it has put out. -/
structure Ledger where
  started : Bool
  failure : Option Failure
  frames : List Image

namespace Ledger

def start : Ledger := ⟨false, none, []⟩

def shown (ledger : Ledger) : Option Payload × Nat := (ledger.frames.getLast?.map .image, ledger.frames.length)

/-- One command, with its answer and all that the camera is asked for. Only a step of a source that is started asks for
a frame, and it does so once. -/
inductive Entry (id : String) (ledger : Ledger) : Answer → List Exchange → Ledger → Prop
  | alreadyStarted (on : ledger.started = true) :
      Entry id ledger (.started (.error (Stage.alreadyStarted id))) [] ledger
  | opened (off : ledger.started = false) :
      Entry id ledger (.started (.ok ())) [.opened (.ok ())] { ledger with started := true }
  | notOpened (off : ledger.started = false) (failure : Failure) :
      Entry id ledger (.started (.error failure)) [.opened (.error failure)] { ledger with failure := some failure }
  | released (on : ledger.started = true) : Entry id ledger .stopped [.released] { ledger with started := false }
  | notStarted (off : ledger.started = false) : Entry id ledger .stopped [] ledger
  | captured (on : ledger.started = true) (frame : Image) :
      Entry id ledger (.polled true) [.captured (.ok (some frame))] { ledger with frames := ledger.frames ++ [frame] }
  | skipped (on : ledger.started = true) : Entry id ledger (.polled false) [.captured (.ok none)] ledger
  | failed (on : ledger.started = true) (failure : Failure) :
      Entry id ledger (.polled false) [.captured (.error failure)] { ledger with failure := some failure }
  | idle (off : ledger.started = false) : Entry id ledger (.polled false) [] ledger
  | taken : Entry id ledger (.taken ledger.failure) [] { ledger with failure := none }
  | aside : Entry id ledger .nothing [] ledger

/-- Commands one after the other. After each of them the output shows what the ledger says. -/
inductive Entries (id : String) :
    Ledger → List (Answer × Option (Option Payload × Nat)) → List Exchange → Ledger → Prop
  | none {ledger : Ledger} : Entries id ledger [] [] ledger
  | more {ledger middle last : Ledger} {answer : Answer} {exchanges others : List Exchange}
      {rest : List (Answer × Option (Option Payload × Nat))} (entry : Entry id ledger answer exchanges middle)
      (entries : Entries id middle rest others last) :
      Entries id ledger ((answer, some middle.shown) :: rest) (exchanges ++ others) last

/-- One frame is put out for each that is captured, and for each step that had work. -/
theorem Entry.frames {id : String} {ledger next : Ledger} {answer : Answer} {exchanges : List Exchange}
    (entry : Entry id ledger answer exchanges next) :
    next.frames = ledger.frames ++ exchanges.filterMap Exchange.frame? ∧
      next.frames.length = ledger.frames.length + answer.worked.toNat := by
  cases entry <;> simp [Exchange.frame?, Answer.worked]

theorem Entries.frames {id : String} {ledger last : Ledger} {exchanges : List Exchange}
    {answers : List (Answer × Option (Option Payload × Nat))} (entries : Entries id ledger answers exchanges last) :
    last.frames = ledger.frames ++ exchanges.filterMap Exchange.frame? ∧
      last.frames.length = ledger.frames.length + answers.countP (·.1.worked) := by
  induction entries with
  | none => simp
  | @more ledger middle last answer exchanges others rest entry _ ih =>
    obtain ⟨first, counted⟩ := entry.frames
    constructor
    · rw [ih.1, first, List.filterMap_append, List.append_assoc]
    · rw [ih.2, counted, List.countP_cons, Nat.add_assoc, Nat.add_comm answer.worked.toNat]
      cases answer.worked <;> rfl

end Ledger

/-- What the ledger says of the source is so. The output leads to a feed of images. -/
structure Ledger.Tells (ledger : Ledger) (bag : PropertyBag) (feed : FeedId) (stage : Stage (Source κ))
    (fabric : Fabric ω) : Prop where
  started : stage.isStarted = ledger.started
  failure : stage.core.lastFailure = ledger.failure
  properties : stage.core.properties = bag
  output : stage.core.output? 0 = some feed
  format : fabric.format? feed = some .image
  shown : fabric.content? feed = some ledger.shown

namespace Ledger.Tells

variable [Camera ω κ] {ledger : Ledger} {bag : PropertyBag} {feed : FeedId} {stage : Stage (Source κ)}
  {fabric : Fabric ω}

/-- What a command makes of a source: an entry in the ledger, which still tells the truth. -/
def Enters (ledger : Ledger) (bag : PropertyBag) (feed : FeedId) (stage : Stage (Source κ)) (fabric : Fabric ω) :
    Answer × Stage (Source κ) × Fabric ω → Prop
  | (answer, next, after) => ∃ exchanges later, Entry stage.id ledger answer exchanges later ∧
      Consulted bag stage.body.camera fabric.surroundings exchanges next.body.camera after.surroundings ∧
      later.Tells bag feed next after

theorem enters_start (tells : ledger.Tells bag feed stage fabric) :
    Enters ledger bag feed stage fabric (obey stage fabric (.start : Command ω feed)) := by
  simp only [obey, Stage.start]
  cases on : stage.isStarted with
  | true => exact ⟨[], ledger, .alreadyStarted (tells.started ▸ on), .never, tells⟩
  | false =>
    have off : ledger.started = false := tells.started ▸ on
    rcases asked : Camera.openWith stage.body.camera stage.core.properties fabric.surroundings with
      ⟨result, camera, surroundings⟩
    have consulted := (Asked.opened asked).consulted
    rw [tells.properties] at consulted
    cases result with
    | ok =>
      simp only [Behaviour.onStart, onStart, asked]
      exact ⟨_, _, .opened off, consulted, { tells with started := rfl }⟩
    | error failure =>
      simp only [Behaviour.onStart, onStart, asked]
      exact ⟨_, _, .notOpened off failure, consulted, { tells with started := tells.started, failure := rfl }⟩

theorem enters_stop (tells : ledger.Tells bag feed stage fabric) :
    Enters ledger bag feed stage fabric (obey stage fabric (.stop : Command ω feed)) := by
  simp only [obey, Stage.stop, Stage.stopBy]
  cases on : stage.isStarted with
  | false => exact ⟨[], ledger, .notStarted (tells.started ▸ on), .never, tells⟩
  | true =>
    rcases asked : Camera.release stage.body.camera fabric.surroundings with ⟨camera, surroundings⟩
    simp only [Behaviour.onStop, onStop, asked, if_true]
    exact ⟨_, _, .released (tells.started ▸ on), (Asked.released asked).consulted, { tells with started := rfl }⟩

omit [Camera ω κ] in
theorem published (tells : ledger.Tells bag feed stage fabric) (frame : Image) :
    ∃ after, publish stage.core frame fabric = .ok after ∧ fabric.push feed (.image frame) = .ok after := by
  obtain ⟨after, accepted⟩ := Fabric.push_of_format (.image frame) tells.format
  refine ⟨after, ?_, accepted⟩
  simp only [publish, tells.output, accepted]
  rfl

theorem enters_poll (tells : ledger.Tells bag feed stage fabric) :
    Enters ledger bag feed stage fabric (obey stage fabric (.poll : Command ω feed)) := by
  simp only [obey, Behaviour.poll, Stage.pollOnTick]
  cases on : stage.isStarted with
  | false => exact ⟨[], ledger, .idle (tells.started ▸ on), .never, tells⟩
  | true =>
    have started : ledger.started = true := tells.started ▸ on
    rcases asked : Camera.capture stage.body.camera fabric.surroundings with ⟨result, camera, surroundings⟩
    have consulted : Consulted bag _ _ _ _ _ := (Asked.captured asked).consulted
    have told : ledger.Tells bag feed { stage with body := ⟨camera⟩ } { fabric with surroundings } := { tells with }
    simp only [tick, asked, if_true, Stage.settle]
    cases result with
    | error failure => exact ⟨_, _, .failed started failure, consulted, { told with failure := rfl }⟩
    | ok frame? =>
      cases frame? with
      | none => exact ⟨_, _, .skipped started, consulted, told⟩
      | some frame =>
        obtain ⟨after, published, accepted⟩ := told.published frame
        simp only [published]
        refine ⟨_, _, .captured started frame, ?_, { told with format := ?_, shown := ?_ }⟩
        · rw [Fabric.surroundings_push accepted]
          exact consulted
        · exact (Fabric.format?_push accepted feed).trans told.format
        · rw [Fabric.content?_push accepted, if_pos rfl, told.shown]
          simp [Ledger.shown]

theorem enters_obey (tells : ledger.Tells bag feed stage fabric) (command : Command ω feed) :
    Enters ledger bag feed stage fabric (obey stage fabric command) := by
  cases command with
  | start => exact tells.enters_start
  | stop => exact tells.enters_stop
  | poll => exact tells.enters_poll
  | takeFailure =>
    refine ⟨[], { ledger with failure := none }, ?_, .never, { tells with failure := rfl }⟩
    exact tells.failure ▸ .taken
  | aside change kept =>
    have bystander := kept fabric
    refine ⟨[], ledger, .aside, ?_, { tells with
      format := bystander.format.trans tells.format
      shown := bystander.content.trans tells.shown }⟩
    rw [bystander.surroundings]
    exact .never

/-- After any commands the ledger has an entry for each, and tells the truth. -/
theorem entries_obeyAll (tells : ledger.Tells bag feed stage fabric) (commands : List (Command ω feed)) :
    ∃ exchanges last, Entries stage.id ledger (obeyAll stage fabric commands).1 exchanges last ∧
      Consulted bag stage.body.camera fabric.surroundings exchanges
        (obeyAll stage fabric commands).2.1.body.camera (obeyAll stage fabric commands).2.2.surroundings ∧
      last.Tells bag feed (obeyAll stage fabric commands).2.1 (obeyAll stage fabric commands).2.2 := by
  induction commands generalizing ledger stage fabric with
  | nil => exact ⟨[], ledger, .none, .never, tells⟩
  | cons command commands ih =>
    have step := tells.enters_obey command
    rcases done : obey stage fabric command with ⟨answer, next, after⟩
    rw [done] at step
    obtain ⟨exchanges, later, entry, consulted, told⟩ := step
    obtain ⟨others, last, entries, further, still⟩ := ih told
    have same : next.id = stage.id := by
      rw [Stage.id, Stage.id, Core.id, Core.id, told.properties, tells.properties]
    have shown : shown? next after = some later.shown := by
      rw [shown?, told.output]
      exact told.shown
    simp only [obeyAll, done, shown]
    exact ⟨exchanges ++ others, last, .more entry (same ▸ entries), consulted.trans further, still⟩

end Ledger.Tells

theorem tells_make [Camera ω κ] (camera : κ) (fabric : Fabric ω) :
    let made := make camera fabric
    Ledger.start.Tells made.1.core.properties ⟨fabric.feeds.size⟩ made.1 made.2 := by
  let info : StageInfo := ⟨Camera.name ω camera, Camera.description ω camera, author⟩
  have same := Core.foldl_register_same (Camera.properties ω camera) (Core.make info [] [framePort] fabric).1
  have core : (make camera fabric).1.core = _ := same
  have fed : (make camera fabric).2.feed? ⟨fabric.feeds.size⟩ = some (Feed.empty framePort.name framePort.format) := by
    simp [make, Core.make, Core.addOutputs, Fabric.addFeed, Fabric.addBell, Fabric.feed?]
  refine ⟨?_, ?_, rfl, ?_, ?_, ?_⟩
  · rw [Stage.isStarted, core]
    rfl
  · rw [core]
    rfl
  · rw [core]
    rfl
  · rw [Fabric.format?, fed]
    rfl
  · rw [Fabric.content?, fed]
    rfl

/-- Whatever a camera gives, and in whatever order its source is started, stopped and made to step: every command has
its entry in a ledger that begins with nothing. The camera is asked for what the entries say and for nothing else, and
after each command the output shows the last of the frames that were put out, and their count. These are the frames that
were captured, in their order, one for each step that had work. -/
theorem captures_published [Camera ω κ] (camera : κ) (fabric : Fabric ω)
    (commands : List (Command ω ⟨fabric.feeds.size⟩)) :
    let made := make camera fabric
    let done := obeyAll made.1 made.2 commands
    ∃ exchanges ledger, Ledger.Entries made.1.id .start done.1 exchanges ledger ∧
      Consulted made.1.core.properties camera fabric.surroundings exchanges done.2.1.body.camera
        done.2.2.surroundings ∧
      ledger.frames = exchanges.filterMap Exchange.frame? ∧
      ledger.frames.length = done.1.countP (·.1.worked) ∧
      shown? done.2.1 done.2.2 = some ledger.shown ∧
      done.2.1.isStarted = ledger.started ∧ done.2.1.core.lastFailure = ledger.failure := by
  intro made done
  obtain ⟨exchanges, ledger, entries, consulted, tells⟩ := (tells_make camera fabric).entries_obeyAll commands
  obtain ⟨frames, counted⟩ := entries.frames
  have shown : shown? done.2.1 done.2.2 = some ledger.shown := by
    rw [shown?, tells.output]
    exact tells.shown
  exact ⟨exchanges, ledger, entries, consulted, frames, by simpa [Ledger.start] using counted, shown, tells.started,
    tells.failure⟩

/-- A camera that gives what it was told to give, and then nothing. -/
structure Script where
  answers : List (Except Failure (Option Image))

instance : Camera ω Script where
  name _ := "Scripted"
  openWith camera _ surroundings := (.ok (), camera, surroundings)
  capture camera surroundings := match camera.answers with
    | [] => (.ok none, camera, surroundings)
    | answer :: answers => (answer, ⟨answers⟩, surroundings)
  release camera surroundings := (camera, surroundings)

/-- A frame, no frame, a failure, and another frame, which is captured when the source is started again. -/
def script : Script :=
  ⟨[.ok (some (Image.blank 4 3 1)), .ok none, .error ⟨.resource, "device busy"⟩, .ok (some (Image.blank 2 2 1))]⟩

def scriptedCommands : List (Command Unit ⟨0⟩) :=
  [.poll, .start, .start, .poll, .poll, .poll, .stop, .poll, .start, .poll, .takeFailure, .poll]

/-- Two steps have work, and what they put out stays where it is. The failure is kept until it is taken. -/
theorem captures_published_scripted :
    let made := make script (Fabric.empty ())
    let done := obeyAll made.1 made.2 scriptedCommands
    (∃ exchanges ledger, Ledger.Entries made.1.id .start done.1 exchanges ledger ∧ ledger.frames.length = 2 ∧
      ledger.failure = none) ∧
    done.1.map (·.1.worked) =
      [false, false, false, true, false, false, false, false, false, true, false, false] ∧
    done.1.map (·.2.map Prod.snd) = [0, 0, 0, 1, 1, 1, 1, 1, 1, 2, 2, 2].map some := by
  intro made done
  obtain ⟨exchanges, ledger, entries, -, -, counted, -, -, kept⟩ :=
    captures_published script (Fabric.empty ()) scriptedCommands
  exact ⟨⟨exchanges, ledger, entries, counted.trans (by decide +kernel), kept.symm.trans (by decide +kernel)⟩,
    by decide +kernel, by decide +kernel⟩

end Source

end TouchTracking
