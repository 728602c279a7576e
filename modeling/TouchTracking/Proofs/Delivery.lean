import TouchTracking.Proofs.Registrations
import TouchTracking.Proofs.StageRuns
import TouchTracking.Stage.Builtin

/-! What pushes do to the bells. Pushes on some feeds, one after the other, take nothing off a feed and connect
nothing: they raise counts, and ring just those bells that are registered on a feed whose count they raise. A stage
that steps does no more than that, on the feeds of its own outputs. -/
namespace TouchTracking

namespace Fabric

variable {ω : Type}

/-- How many payloads a feed has accepted. -/
def sequence (fabric : Fabric ω) (id : FeedId) : Nat := ((fabric.content? id).map Prod.snd).getD 0

/-- Everything that pushes on the given feeds can do, while the given bells may be silenced in between. -/
structure Fed (feeds : List FeedId) (bells : List BellId) (fabric next : Fabric ω) : Prop where
  registrations : ∀ bell id, next.registrations bell id = fabric.registrations bell id
  hasBell : ∀ bell, next.hasBell bell = fabric.hasBell bell
  hasFeed : ∀ id, next.hasFeed id = fabric.hasFeed id
  counted : ∀ id, fabric.sequence id ≤ next.sequence id
  elsewhere : ∀ id, id ∉ feeds → next.sequence id = fabric.sequence id
  kept : ∀ id, next.sequence id = fabric.sequence id → next.content? id = fabric.content? id
  formats : ∀ id, next.format? id = fabric.format? id
  rung : ∀ bell, bell ∉ bells → (next.isRinging bell = true ↔ fabric.isRinging bell = true ∨
    fabric.hasBell bell = true ∧
      ∃ id, 0 < fabric.registrations bell id ∧ fabric.sequence id < next.sequence id)

namespace Fed

variable {feeds others : List FeedId} {bells more : List BellId} {fabric middle next : Fabric ω}

theorem refl (fabric : Fabric ω) : Fed feeds bells fabric fabric where
  registrations _ _ := rfl
  hasBell _ := rfl
  hasFeed _ := rfl
  counted _ := Nat.le_refl _
  elsewhere _ _ := rfl
  kept _ _ := rfl
  formats _ := rfl
  rung bell _ := by
    refine ⟨.inl, ?_⟩
    rintro (ringing | ⟨-, id, -, raised⟩)
    · exact ringing
    · exact absurd raised (Nat.lt_irrefl _)

/-- What counted more at the end began to do so on one of the two ways. -/
theorem raised_iff (first : Fed feeds bells fabric middle) (second : Fed others more middle next) (id : FeedId) :
    fabric.sequence id < next.sequence id ↔
      fabric.sequence id < middle.sequence id ∨ middle.sequence id < next.sequence id := by
  have before := first.counted id
  have after := second.counted id
  omega

theorem trans (first : Fed feeds bells fabric middle) (second : Fed feeds bells middle next) :
    Fed feeds bells fabric next where
  registrations bell id := (second.registrations bell id).trans (first.registrations bell id)
  hasBell bell := (second.hasBell bell).trans (first.hasBell bell)
  hasFeed id := (second.hasFeed id).trans (first.hasFeed id)
  counted id := Nat.le_trans (first.counted id) (second.counted id)
  elsewhere id outside := (second.elsewhere id outside).trans (first.elsewhere id outside)
  kept id same := by
    have before := first.counted id
    have after := second.counted id
    rw [second.kept id (by omega), first.kept id (by omega)]
  formats id := (second.formats id).trans (first.formats id)
  rung bell apart := by
    rw [second.rung bell apart, first.rung bell apart, first.hasBell]
    simp only [first.registrations, first.raised_iff second, and_or_left, exists_or, or_assoc]

theorem mono (feeds_ : feeds ⊆ others) (bells_ : bells ⊆ more) (fed : Fed feeds bells fabric next) :
    Fed others more fabric next :=
  { fed with
    elsewhere := fun id outside => fed.elsewhere id fun member => outside (feeds_ member)
    rung := fun bell apart => fed.rung bell fun member => apart (bells_ member) }

theorem present (fed : Fed feeds bells fabric next) {id : FeedId}
    (raised : fabric.sequence id < next.sequence id) : fabric.hasFeed id = true := by
  rw [← fed.hasFeed, Fabric.hasFeed]
  unfold sequence at raised
  cases held : next.content? id with
  | none => simp [held] at raised
  | some => rfl

theorem mem_of_raised (fed : Fed feeds bells fabric next) {id : FeedId}
    (raised : fabric.sequence id < next.sequence id) : id ∈ feeds :=
  Decidable.byContradiction fun outside =>
    absurd raised (Nat.not_lt.mpr (Nat.le_of_eq (fed.elsewhere id outside)))

theorem content?_elsewhere (fed : Fed feeds bells fabric next) {id : FeedId} (outside : id ∉ feeds) :
    next.content? id = fabric.content? id :=
  fed.kept id (fed.elsewhere id outside)

end Fed

variable {fabric next : Fabric ω} {feed : FeedId} {payload : Payload}

theorem sequence_push (accepted : fabric.push feed payload = .ok next) (id : FeedId) :
    next.sequence id =
      if id = feed ∧ fabric.hasFeed id = true then fabric.sequence id + 1 else fabric.sequence id := by
  rw [sequence, content?_push accepted, sequence, hasFeed]
  by_cases same : id = feed
  · subst same
    cases fabric.content? id <;> simp
  · rw [if_neg same, if_neg fun both => same both.1]

theorem lt_sequence_push (accepted : fabric.push feed payload = .ok next) (id : FeedId) :
    fabric.sequence id < next.sequence id ↔ id = feed ∧ fabric.hasFeed id = true := by
  rw [sequence_push accepted]
  split
  next both => exact ⟨fun _ => both, fun _ => Nat.lt_succ_self _⟩
  next apart => exact ⟨fun raised => absurd raised (Nat.lt_irrefl _), fun both => absurd both apart⟩

theorem fed_push {bells : List BellId} (accepted : fabric.push feed payload = .ok next) :
    Fed [feed] bells fabric next where
  registrations bell id := registrations_push feed id bell accepted
  hasBell bell := hasBell_push feed bell accepted
  hasFeed id := hasFeed_push feed id accepted
  counted id := by
    rw [sequence_push accepted]
    split <;> omega
  elsewhere id outside := by
    rw [sequence_push accepted, if_neg fun both => outside (List.mem_singleton.mpr both.1)]
  kept id same := by
    have apart := (not_congr (lt_sequence_push accepted id)).mp (by omega)
    rw [content?_push accepted]
    split
    next here =>
      subst here
      have missing : fabric.content? id = none := by simpa [hasFeed] using apart
      simp [missing]
    next => rfl
  formats id := format?_push accepted id
  rung bell _ := by
    simp only [lt_sequence_push accepted]
    cases pushed feed accepted with
    | nowhere missing =>
      have absent : fabric.hasFeed feed = false := by simp [hasFeed, content?, missing]
      refine ⟨.inl, ?_⟩
      rintro (ringing | ⟨-, _, -, rfl, there⟩)
      · exact ringing
      · rw [absent] at there
        cases there
    | taken target pushed found kept =>
      have here : (fabric.modifyFeed feed fun _ => pushed).hasBell bell = fabric.hasBell bell := rfl
      have still : (fabric.modifyFeed feed fun _ => pushed).isRinging bell = fabric.isRinging bell := rfl
      have there : fabric.hasFeed feed = true := by simp [hasFeed, content?, found]
      have listed : bell ∈ pushed.observers ↔ 0 < fabric.registrations bell feed := by
        rw [registrations, found, kept, List.count_pos_iff]
      rw [isRinging_foldl_ring, here, still, Bool.or_eq_true, Bool.and_eq_true, decide_eq_true_iff, listed]
      constructor
      · rintro (ringing | ⟨registered, known⟩)
        · exact .inl ringing
        · exact .inr ⟨known, feed, registered, rfl, there⟩
      · rintro (ringing | ⟨known, _, registered, rfl, -⟩)
        · exact .inl ringing
        · exact .inr ⟨registered, known⟩

section Bells

variable (fabric : Fabric ω) (bell : BellId)

theorem hasBell_modifyBell (change : Bell → Bell) (other : BellId) :
    (fabric.modifyBell bell change).hasBell other = fabric.hasBell other := by
  simp only [hasBell, bell?, modifyBell, Array.getElem?_modify]
  split <;> simp

theorem isRinging_modifyBell (change : Bell → Bell) (other : BellId) :
    (fabric.modifyBell bell change).isRinging other =
      if other = bell then (fabric.bell? bell).any fun bell => (change bell).ringing
      else fabric.isRinging other := by
  obtain ⟨index⟩ := bell
  obtain ⟨index'⟩ := other
  simp only [isRinging, bell?, modifyBell, Array.getElem?_modify, BellId.mk.injEq, eq_comm]
  split
  next same => subst same; cases fabric.bells[index]? <;> rfl
  next => rfl

theorem fed_modifyBell {feeds : List FeedId} {bells : List BellId} {change : Bell → Bell}
    (still : ∀ other, other ∉ bells →
      (fabric.modifyBell bell change).isRinging other = fabric.isRinging other) :
    Fed feeds bells fabric (fabric.modifyBell bell change) := by
  have same : Fed feeds bells fabric fabric := .refl fabric
  exact { same with
    hasBell := hasBell_modifyBell fabric bell change
    rung := fun other apart => by rw [still other apart]; exact same.rung other apart }

/-- A change that leaves alone whether the bell rings. -/
theorem fed_modifyBell_of_kept {feeds : List FeedId} {bells : List BellId} {change : Bell → Bell}
    (kept : ∀ bell, (change bell).ringing = bell.ringing) :
    Fed feeds bells fabric (fabric.modifyBell bell change) := by
  refine fed_modifyBell fabric bell fun other _ => ?_
  rw [isRinging_modifyBell]
  split
  next same => subst same; simp only [kept]; rfl
  next => rfl

theorem isRinging_silence (other : BellId) :
    (fabric.silence bell).isRinging other = (decide (other ≠ bell) && fabric.isRinging other) := by
  rw [silence, isRinging_modifyBell]
  split
  next same => subst same; cases fabric.bell? other <;> simp
  next apart => simp [apart]

@[simp] theorem hasBell_silence (other : BellId) : (fabric.silence bell).hasBell other = fabric.hasBell other :=
  hasBell_modifyBell ..

theorem fed_silence {feeds : List FeedId} : Fed feeds [bell] fabric (fabric.silence bell) :=
  fed_modifyBell fabric bell fun other apart => by
    rw [← silence, isRinging_silence]
    simp [mt List.mem_singleton.mpr apart]

theorem fed_of_silent {feeds : List FeedId} (silent : fabric.isRinging bell = false) :
    Fed feeds [] (fabric.silence bell) fabric := by
  have still (other : BellId) : (fabric.silence bell).isRinging other = fabric.isRinging other := by
    rw [isRinging_silence]
    by_cases same : other = bell
    · rw [same, silent, Bool.and_false]
    · simp [same]
  have same : Fed feeds [] fabric fabric := .refl fabric
  refine { same with
    hasBell := fun other => (hasBell_silence ..).symm
    rung := fun other apart => ?_ }
  rw [still, hasBell_silence]
  exact same.rung other apart

theorem isRinging_addBell (owner : String) :
    (fabric.addBell owner).2.isRinging bell = fabric.isRinging bell := by
  simp only [isRinging, bell?, addBell, Array.getElem?_push]
  split
  next last => simp [last]
  next => rfl

theorem isRinging_of_not_hasBell {fabric : Fabric ω} {bell : BellId} (missing : fabric.hasBell bell = false) :
    fabric.isRinging bell = false := by
  rw [hasBell, Option.isSome_eq_false_iff, Option.isNone_iff_eq_none] at missing
  rw [isRinging, missing]
  rfl

end Bells

theorem slot?_eq_bind (fabric : Fabric ω) (id : FeedId) :
    fabric.slot? id = (fabric.feed? id).bind Feed.slot := by
  rw [slot?, content?, Option.bind_map]
  rfl

end Fabric

namespace Core

variable {ω : Type}

def outputFeeds (core : Core) : List FeedId := core.outputs.map OutputPort.feed

theorem mem_outputFeeds {core : Core} {port : Nat} {feed : FeedId}
    (output : core.output? port = some feed) : feed ∈ core.outputFeeds := by
  obtain ⟨entry, found, rfl⟩ := Option.map_eq_some_iff.mp output
  exact List.mem_map_of_mem (List.mem_of_getElem? found)

theorem payload?_eq_bind (core : Core) (port : Nat) (fabric : Fabric ω) :
    core.payload? port fabric = (core.input? port).bind fabric.slot? := by
  rw [payload?, Option.bind_assoc, funext (Fabric.slot?_eq_bind fabric)]

theorem isRinging_addOutputs (fabric : Fabric ω) (ports : List Port) (bell : BellId) :
    (addOutputs fabric ports).2.isRinging bell = fabric.isRinging bell := by
  induction ports generalizing fabric with
  | nil => rfl
  | cons port ports ih => rw [addOutputs, ih]; rfl

theorem isRinging_make (info : StageInfo) (inputs outputs : List Port) (fabric : Fabric ω) (bell : BellId) :
    (make info inputs outputs fabric).2.isRinging bell = fabric.isRinging bell := by
  rw [make, isRinging_addOutputs, Fabric.isRinging_addBell]

/-- Leaving a feed rings nothing and silences nothing. -/
theorem isRinging_leave (core : Core) (feed : Option FeedId) (fabric : Fabric ω) (bell : BellId) :
    (core.leave feed fabric).isRinging bell = fabric.isRinging bell := by
  cases feed <;> rfl

theorem isRinging_foldl_leave (core : Core) (inputs : List InputPort) (fabric : Fabric ω)
    (bell : BellId) :
    (inputs.foldl (fun fabric input => core.leave input.feed fabric) fabric).isRinging bell =
      fabric.isRinging bell := by
  induction inputs generalizing fabric with
  | nil => rfl
  | cons input inputs ih => rw [List.foldl_cons, ih, isRinging_leave]

theorem isRinging_detachFeed (core : Core) (feed : FeedId) (fabric : Fabric ω) (bell : BellId) :
    (core.detachFeed feed fabric).2.isRinging bell = fabric.isRinging bell := by
  unfold detachFeed
  split <;> rfl

/-- Joining a feed rings the bell of the stage if the feed holds a payload. -/
theorem isRinging_join (core : Core) (feed : Option FeedId) (fabric : Fabric ω) (bell : BellId) :
    (core.join feed fabric).isRinging bell = true ↔ fabric.isRinging bell = true ∨
      bell = core.bell ∧ fabric.hasBell bell = true ∧ (feed.bind fabric.slot?).isSome = true := by
  cases feed with
  | none => simp [join]
  | some id =>
    have holds : (((fabric.subscribe id core.bell).feed? id).bind Feed.slot).isSome =
        (fabric.slot? id).isSome := by
      rw [← Fabric.slot?_eq_bind, Fabric.slot?, Fabric.content?_subscribe, Fabric.slot?]
    have still : (fabric.subscribe id core.bell).isRinging bell = fabric.isRinging bell := rfl
    have here : (fabric.subscribe id core.bell).hasBell bell = fabric.hasBell bell := rfl
    simp only [join, holds]
    split
    next held =>
      rw [Fabric.isRinging_ring, still, here, Bool.or_eq_true, Bool.and_eq_true, beq_iff_eq]
      simp [held]
    next empty => simp [still, empty]

/-- A change of a core that leaves its bell and its ports alone. -/
structure Alike (core next : Core) : Prop where
  bell : next.bell = core.bell
  inputs : next.inputs = core.inputs
  outputs : next.outputs = core.outputs

theorem Alike.refl (core : Core) : Alike core core := ⟨rfl, rfl, rfl⟩

theorem Alike.trans {first second third : Core} (begun : Alike first second)
    (continued : Alike second third) : Alike first third :=
  ⟨continued.bell.trans begun.bell, continued.inputs.trans begun.inputs,
    continued.outputs.trans begun.outputs⟩

theorem Alike.input? {core next : Core} (alike : Alike core next) (port : Nat) :
    next.input? port = core.input? port := by
  rw [Core.input?, alike.inputs, Core.input?]

theorem alike_fail (core : Core) (failure : Failure) : Alike core (core.fail failure) := ⟨rfl, rfl, rfl⟩

/-- A write that goes through leaves the ports alone, and of the fabric everything but the name on the bell. -/
theorem writeProperty_ok {core next : Core} {name : String} {value : Property.Value}
    {fabric fabric' : Fabric ω} (written : core.writeProperty name value fabric = .ok (next, fabric')) :
    Alike core next ∧ next.phase = core.phase ∧ Fabric.Fed [] [] fabric fabric' := by
  unfold writeProperty at written
  split at written
  next =>
    split at written
    next =>
      unfold assignId lockId at written
      repeat' split at written
      all_goals cases written
      all_goals exact ⟨⟨rfl, rfl, rfl⟩, rfl, Fabric.fed_modifyBell_of_kept fabric _ fun _ => rfl⟩
    next => cases written
  next =>
    split at written
    next => cases written
    next => cases written; exact ⟨⟨rfl, rfl, rfl⟩, rfl, .refl fabric⟩

theorem setProperty_spec (core : Core) (name : String) (value : Property.Value) (fabric : Fabric ω) :
    Alike core (core.setProperty name value fabric).2.1 ∧
      (core.setProperty name value fabric).2.1.phase = core.phase ∧
      Fabric.Fed [] [] fabric (core.setProperty name value fabric).2.2 := by
  unfold setProperty
  split
  next core' fabric' written => exact writeProperty_ok written
  next failure _ => exact ⟨alike_fail core failure, rfl, .refl fabric⟩

end Core

end TouchTracking
