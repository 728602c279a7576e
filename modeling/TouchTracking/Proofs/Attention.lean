import TouchTracking.Proofs.Connections
import TouchTracking.Proofs.Delivery
import TouchTracking.Proofs.StageRuns

/-! What a stage hears. A stage with one input at most never takes an input off a feed that another one shares,
so its bell is registered just where the input is connected, and rings when the count there is raised. Stepping
changes nothing about that. -/
namespace TouchTracking

namespace Wiring

variable {ω : Type} {wiring : Wiring ω}

/-- The bell of a stage with one input at most exists, and is registered just where the input is connected. -/
structure Attentive (wiring : Wiring ω) : Prop where
  known : wiring.fabric.hasBell wiring.core.bell = true
  few : wiring.core.inputs.length ≤ 1
  sound : Sound wiring
  hears : Hears wiring

theorem not_parts_of_few (few : wiring.core.inputs.length ≤ 1) (change : Change) :
    ¬ wiring.Parts change := by
  cases change with
  | connect feed port =>
    rintro ⟨-, connected, -, other, inside, apart, -⟩
    obtain ⟨id, here⟩ := Option.ne_none_iff_exists'.mp connected
    have bound := Core.lt_of_input? here
    omega
  | detachFeed | detachInputs | push => exact id

theorem length_inputs_act (wiring : Wiring ω) (change : Change) :
    (wiring.act change).core.inputs.length = wiring.core.inputs.length := by
  cases change with
  | connect feed port =>
    simp only [act]
    split
    next core fabric done =>
      obtain ⟨-, -, rfl, -⟩ := Core.setInput_ok done
      exact List.length_modify ..
    next => rfl
  | detachFeed feed =>
    simp only [act, Core.detachFeed]
    split
    · exact List.length_map ..
    · rfl
  | detachInputs => exact List.length_map ..
  | push feed payload =>
    simp only [act]
    split <;> rfl

namespace Attentive

theorem make {fabric : Fabric ω} (closed : fabric.Closed) (info : StageInfo) {inputs : List Port}
    (few : inputs.length ≤ 1) (outputs : List Port) :
    Attentive (Wiring.make info inputs outputs fabric) := by
  obtain ⟨silent, loose, known⟩ := make_unwired closed info inputs outputs
  have length : (Wiring.make info inputs outputs fabric).core.inputs.length = inputs.length :=
    List.length_map ..
  refine ⟨known, length ▸ few, ⟨fun id => ?_, fun id positive => ?_⟩, fun id _ here => ?_⟩
  · rw [silent]
    exact Nat.zero_le 1
  · rw [silent] at positive
    exact absurd positive (Nat.lt_irrefl 0)
  · exact absurd here (loose id)

theorem act (attentive : Attentive wiring) (change : Change) : Attentive (wiring.act change) := by
  obtain ⟨bell, hasBell, hasFeed⟩ := act_keeps wiring change
  have step := changed wiring change
  exact ⟨by rw [bell, hasBell, attentive.known], length_inputs_act wiring change ▸ attentive.few,
    sound_changed attentive.sound step,
    hears_changed attentive.hears hasFeed (not_parts_of_few attentive.few change) step⟩

theorem congr (attentive : Attentive wiring) {next : Wiring ω}
    (alike : Core.Alike wiring.core next.core)
    (hasBell : next.fabric.hasBell wiring.core.bell = wiring.fabric.hasBell wiring.core.bell)
    (hasFeed : ∀ id, wiring.Connected id → next.fabric.hasFeed id = true →
      wiring.fabric.hasFeed id = true)
    (registered : ∀ id, next.fabric.registrations wiring.core.bell id = wiring.registrations id) :
    Attentive next := by
  have same (id : FeedId) : next.registrations id = wiring.registrations id := by
    rw [registrations, alike.bell, registered]
  have connected (id : FeedId) : next.Connected id ↔ wiring.Connected id := by
    simp only [Connected, input?, alike.input?]
  refine ⟨by rw [alike.bell, hasBell, attentive.known], alike.inputs ▸ attentive.few, ⟨fun id => ?_,
    fun id positive => ?_⟩, fun id present here => ?_⟩
  · exact same id ▸ attentive.sound.once id
  · exact (connected id).mpr (attentive.sound.connected id (same id ▸ positive))
  · have here := (connected id).mp here
    exact same id ▸ attentive.hears id (hasFeed id here present) here

theorem fed (attentive : Attentive wiring) {next : Wiring ω} {feeds : List FeedId} {bells : List BellId}
    (alike : Core.Alike wiring.core next.core)
    (fed : Fabric.Fed feeds bells wiring.fabric next.fabric) : Attentive next :=
  attentive.congr alike (fed.hasBell _) (fun id _ present => fed.hasFeed id ▸ present)
    (fed.registrations _)

theorem registered_iff (attentive : Attentive wiring) {id : FeedId}
    (present : wiring.fabric.hasFeed id = true) :
    0 < wiring.registrations id ↔ wiring.input? 0 = some id := by
  constructor
  · intro registered
    obtain ⟨port, here⟩ := attentive.sound.connected id registered
    have bound := Core.lt_of_input? here
    have few := attentive.few
    obtain rfl : port = 0 := by omega
    exact here
  · exact fun here => attentive.hears id present ⟨0, here⟩

/-- After pushes the bell rings if it did before, or if the count of the connected feed was raised. -/
theorem isRinging_fed (attentive : Attentive wiring) {feeds : List FeedId} {bells : List BellId}
    {next : Fabric ω} (fed : Fabric.Fed feeds bells wiring.fabric next)
    (apart : wiring.core.bell ∉ bells) :
    next.isRinging wiring.core.bell = true ↔ wiring.fabric.isRinging wiring.core.bell = true ∨
      ∃ id, wiring.input? 0 = some id ∧ wiring.fabric.sequence id < next.sequence id := by
  have registered (id : FeedId) :
      0 < wiring.fabric.registrations wiring.core.bell id ∧ wiring.fabric.sequence id < next.sequence id ↔
        wiring.input? 0 = some id ∧ wiring.fabric.sequence id < next.sequence id :=
    and_congr_left fun raised => attentive.registered_iff (fed.present raised)
  rw [fed.rung _ apart, attentive.known]
  simp only [registered, true_and]

end Attentive

end Wiring

namespace Core

theorem alike_foldl_register (properties : List (String × Property)) (core : Core) :
    Alike core (properties.foldl (fun core entry => core.register entry.1 entry.2) core) := by
  induction properties generalizing core with
  | nil => exact .refl core
  | cons entry properties ih =>
    have registered : Alike core (core.register entry.1 entry.2) := ⟨rfl, rfl, rfl⟩
    exact registered.trans (ih _)

end Core

/-- Keeping a failure leaves everything else of the stage, and the fabric, alone. -/
theorem Stage.settle_spec {ω σ : Type} (result : Except Failure Bool) (stage : Stage σ)
    (fabric : Fabric ω) :
    Core.Alike stage.core (settle (result, stage, fabric)).2.1.core ∧
      (settle (result, stage, fabric)).2.1.isStarted = stage.isStarted ∧
      (settle (result, stage, fabric)).2.2 = fabric := by
  cases result with
  | ok => exact ⟨.refl _, rfl, rfl⟩
  | error failure => exact ⟨Core.alike_fail .., rfl, rfl⟩

namespace BlobTracker

open Raster (Image)
open Fabric (Fed)

variable {ω : Type}

theorem fed_pushTo {core : Core} {port : Nat} {payload : Payload} {fabric next : Fabric ω}
    (pushed : pushTo core port payload fabric = .ok next) : Fed core.outputFeeds [] fabric next := by
  obtain ⟨feed, output, accepted⟩ := pushTo_ok pushed
  refine (Fabric.fed_push accepted).mono (fun id member => ?_) (List.Subset.refl _)
  rw [List.mem_singleton.mp member]
  exact Core.mem_outputFeeds output

theorem fed_publish (core : Core) (picture : Image) (touches : List Touch) (fabric : Fabric ω) :
    Fed core.outputFeeds [] fabric (publish core picture touches fabric).2 := by
  unfold publish
  split
  next => exact .refl fabric
  next middle drawn =>
    split
    next => exact fed_pushTo drawn
    next told => exact (fed_pushTo drawn).trans (fed_pushTo told)

/-- An update pushes on the stage's own outputs, keeps its ports, and does not start it. -/
theorem update_spec (stage : Stage Body) (fabric : Fabric ω) :
    Fed stage.core.outputFeeds [] fabric (update stage fabric).2.2 ∧
      Core.Alike stage.core (update stage fabric).2.1.core ∧
      ((update stage fabric).2.1.isStarted = true → stage.isStarted = true) := by
  have step := updated stage fabric
  generalize update stage fabric = outcome at step
  cases step with
  | idle => exact ⟨.refl fabric, .refl _, id⟩
  | colored =>
    unfold halt
    split
    next on => exact ⟨.refl fabric, ⟨rfl, rfl, rfl⟩, fun _ => on⟩
    next => exact ⟨.refl fabric, .refl _, id⟩
  | misfit => exact ⟨.refl fabric, .refl _, id⟩
  | unseen mask _ _ synced sync =>
    obtain ⟨same, -⟩ := syncParams_ok sync
    simp only [Stage.isStarted, layOut, same]
    exact ⟨.refl fabric, .refl _, id⟩
  | tracked mask _ _ synced sync touches tracker _ picture _ result next published =>
    obtain ⟨same, -⟩ := syncParams_ok sync
    have fed := fed_publish synced.core picture.image touches fabric
    rw [published, same] at fed
    simp only [Stage.isStarted, same]
    exact ⟨fed, .refl _, id⟩

theorem alike_start (stage : Stage Body) (fabric : Fabric ω) :
    Core.Alike stage.core (stage.start fabric).2.1.core := by
  obtain ⟨_, _, same⟩ := core_start stage fabric
  rw [same]
  exact ⟨rfl, rfl, rfl⟩

theorem alike_stop (stage : Stage Body) (fabric : Fabric ω) :
    Core.Alike stage.core (stage.stop fabric).1.core := by
  obtain ⟨_, same⟩ := core_stop stage fabric
  rw [same]
  exact ⟨rfl, rfl, rfl⟩

end BlobTracker

end TouchTracking
