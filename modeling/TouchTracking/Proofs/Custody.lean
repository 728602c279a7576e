import Mathlib.Data.List.Perm.Basic
import TouchTracking.Proofs.Identifiers
import TouchTracking.Proofs.Rewiring

/-! Whose names are listed on a feed. A stage is held by a caller or is in a pipeline, and goes from one to the other.
When the pipeline turns it away, because there is one with the same id, it is dropped: nobody has it any more. Bells
do not know about that. The names on a feed are the ids of stages that have an input connected to it, and among them
are those of stages that were dropped while they were connected. -/
namespace TouchTracking

open TouchTracking.Core (Named)
open Fabric (Leaves OwnersStay)
open Wiring (Wired)

variable {ω σ : Type}

def Stage.Taps (stage : Stage σ) (feed : FeedId) : Prop := ∃ port, stage.core.input? port = some feed

instance (stage : Stage σ) (feed : FeedId) : Decidable (stage.Taps feed) :=
  decidable_of_iff _ (Core.connected_iff_any stage.core feed)

/-- A blueprint that registers nothing in place of the id. -/
def Blueprint.Plain (plan : Blueprint σ) : Prop := ∀ entry ∈ plan.entries, entry.1 ≠ idName

instance (plan : Blueprint σ) : Decidable plan.Plain :=
  inferInstanceAs (Decidable (∀ entry ∈ plan.entries, entry.1 ≠ idName))

/-- Stages in the hands of a caller and in a pipeline, and those that the pipeline turned away. -/
structure Custody (ω σ : Type) where
  held : List (Stage σ)
  pipeline : Pipeline σ
  dropped : List (Stage σ)
  fabric : Fabric ω

namespace Custody

def empty (surroundings : ω) : Custody ω σ := ⟨[], Pipeline.empty, [], Fabric.empty surroundings⟩

def members (custody : Custody ω σ) : List (Stage σ) := custody.held ++ custody.pipeline.stages

/-- Who has a stage: the caller, in some place, or the pipeline, under the id. -/
inductive Keeper
  | caller (index : Nat)
  | pipeline (id : String)

/-- What can be done to a stage by whoever reaches it. -/
inductive Job
  | setInput (feed : Option FeedId) (port : Nat)
  | detachInputs
  | detachFeed (feed : FeedId)
  | write (name : String) (value : Property.Value)
  | start
  | stop
  | poll

/-- A connection that is refused, or to a feed that does not exist, changes nothing. -/
def Job.perform [Behaviour ω σ] (stage : Stage σ) (fabric : Fabric ω) : Job → Stage σ × Fabric ω
  | .setInput feed port =>
    if feed.all fabric.hasFeed then
      match stage.core.setInput feed port fabric with
      | .ok (core, fabric) => ({ stage with core }, fabric)
      | .error _ => (stage, fabric)
    else (stage, fabric)
  | .detachInputs =>
    let (core, fabric) := stage.core.detachInputs fabric
    ({ stage with core }, fabric)
  | .detachFeed feed =>
    let (core, fabric) := stage.core.detachFeed feed fabric
    ({ stage with core }, fabric)
  | .write name value =>
    let (_, core, fabric) := stage.core.setProperty name value fabric
    ({ stage with core }, fabric)
  | .start => (stage.start fabric).2
  | .stop => stage.stop fabric
  | .poll => (Behaviour.poll stage fabric).2

/-- What a caller can do. It never lets go of a stage but to the pipeline. -/
inductive Deal (σ : Type)
  | addFeed (name : String) (format : Feed.Format)
  | build (plan : Blueprint σ) (plain : plan.Plain)
  | handle (keeper : Keeper) (job : Job)
  | place (index : Nat)
  | takeBack (id : String)
  | connect (producer : String) (output : Nat) (consumer : String) (input : Nat)
  | push (feed : FeedId) (payload : Payload)
  | start
  | stop
  | tick

variable [Behaviour ω σ]

def handle (custody : Custody ω σ) (job : Job) : Keeper → Custody ω σ
  | .caller index => match custody.held[index]? with
    | none => custody
    | some stage =>
      let (stage, fabric) := job.perform stage custody.fabric
      { custody with held := custody.held.set index stage, fabric }
  | .pipeline id => match custody.pipeline.indexOf? id, custody.pipeline.stage? id with
    | some index, some stage =>
      let (stage, fabric) := job.perform stage custody.fabric
      { custody with
        pipeline := { custody.pipeline with stages := custody.pipeline.stages.set index stage }
        fabric }
    | _, _ => custody

/-- Hands a stage to the pipeline, which takes it or drops it. -/
def place (custody : Custody ω σ) (index : Nat) : Custody ω σ :=
  match custody.held[index]? with
  | none => custody
  | some stage =>
    let held := custody.held.eraseIdx index
    match custody.pipeline.add stage with
    | .ok pipeline => { custody with held, pipeline }
    | .error _ => { custody with held, dropped := custody.dropped ++ [stage] }

/-- What is refused changes nothing, but that a stage is dropped. -/
def deal (custody : Custody ω σ) : Deal σ → Custody ω σ
  | .addFeed name format => { custody with fabric := (custody.fabric.addFeed name format).2 }
  | .build plan _ =>
    let (stage, fabric) := plan.build custody.fabric
    { custody with held := stage :: custody.held, fabric }
  | .handle keeper job => custody.handle job keeper
  | .place index => custody.place index
  | .takeBack id => match custody.pipeline.remove id custody.fabric with
    | .ok (stage, pipeline, fabric) => { custody with held := stage :: custody.held, pipeline, fabric }
    | .error _ => custody
  | .connect producer output consumer input =>
    match custody.pipeline.connect producer output consumer input custody.fabric with
    | .ok (pipeline, fabric) => { custody with pipeline, fabric }
    | .error _ => custody
  | .push feed payload => match custody.fabric.push feed payload with
    | .ok fabric => { custody with fabric }
    | .error _ => custody
  | .start =>
    let (pipeline, fabric) := custody.pipeline.start custody.fabric
    { custody with pipeline, fabric }
  | .stop =>
    let (pipeline, fabric) := custody.pipeline.stop custody.fabric
    { custody with pipeline, fabric }
  | .tick =>
    let (_, pipeline, fabric) := custody.pipeline.poll custody.fabric
    { custody with pipeline, fabric }

def run (custody : Custody ω σ) : List (Deal σ) → Custody ω σ
  | [] => custody
  | deal :: deals => (custody.deal deal).run deals

end Custody

/-- The names are the ids of some of the stages, each of which has an input connected to the feed. Of the stages with
one input at most, all that are connected are among them. -/
def Attributed (stages : List (Stage σ)) (feed : FeedId) (names : List String) : Prop :=
  ∃ listed : List (Stage σ), listed.Sublist stages ∧ names.Perm (listed.map Stage.id) ∧
    (∀ stage ∈ listed, stage.Taps feed) ∧
    ∀ stage ∈ stages, stage.core.inputs.length ≤ 1 → stage.Taps feed → stage ∈ listed

namespace Attributed

variable {stages others : List (Stage σ)} {stage : Stage σ} {feed : FeedId} {names : List String}

theorem mem (attributed : Attributed stages feed names) (member : stage ∈ stages)
    (few : stage.core.inputs.length ≤ 1) (taps : stage.Taps feed) : stage.id ∈ names := by
  obtain ⟨listed, -, same, -, all⟩ := attributed
  exact same.mem_iff.mpr (List.mem_map_of_mem (all stage member few taps))

/-- Stages that are not connected to the feed have no part in its names. -/
theorem of_append (attributed : Attributed (stages ++ others) feed names)
    (loose : ∀ stage ∈ others, ¬ stage.Taps feed) : Attributed stages feed names := by
  obtain ⟨listed, fewer, same, only, all⟩ := attributed
  obtain ⟨first, second, rfl, inside, outside⟩ := List.sublist_append_iff.mp fewer
  obtain rfl : second = [] := List.eq_nil_iff_forall_not_mem.mpr fun stage member =>
    loose stage (outside.subset member) (only stage (List.mem_append_right _ member))
  rw [List.append_nil] at same only all
  exact ⟨first, inside, same, only, fun stage member => all stage (List.mem_append_left _ member)⟩

end Attributed

/-- Stages with bells of their own that are shown under their ids. No other bell is registered on any feed. -/
structure Accounted (stages : List (Stage σ)) (fabric : Fabric ω) : Prop where
  distinct : (stages.map fun stage => stage.core.bell).Nodup
  wired : ∀ stage ∈ stages, Wired ⟨stage.core, fabric⟩
  named : ∀ stage ∈ stages, Named stage.core fabric
  owned : ∀ bell id, 0 < fabric.registrations bell id → bell ∈ stages.map fun stage => stage.core.bell

namespace Accounted

variable {stages others before later : List (Stage σ)} {stage next : Stage σ} {fabric after : Fabric ω}

theorem empty (surroundings : ω) : Accounted ([] : List (Stage σ)) (Fabric.empty surroundings) :=
  ⟨List.nodup_nil, nofun, nofun, fun _ _ registered => absurd registered (Nat.lt_irrefl 0)⟩

theorem perm (accounted : Accounted stages fabric) (permuted : stages.Perm others) : Accounted others fabric :=
  ⟨(permuted.map _).nodup_iff.mp accounted.distinct,
    fun stage member => accounted.wired stage (permuted.mem_iff.mpr member),
    fun stage member => accounted.named stage (permuted.mem_iff.mpr member),
    fun bell id registered => (permuted.map _).mem_iff.mp (accounted.owned bell id registered)⟩

/-- What leaves every bell where it is registered, and every name, leaves all stages as they are. -/
theorem spared (accounted : Accounted stages fabric) (leaves : ∀ bell, Leaves bell fabric after)
    (stay : OwnersStay fabric after) : Accounted stages after where
  distinct := accounted.distinct
  wired stage member := (accounted.wired stage member).keep (.refl _) (leaves _)
  named stage member := (accounted.named stage member).congr rfl rfl (stay _)
  owned bell id registered := accounted.owned bell id ((leaves bell).registrations id ▸ registered)

theorem served (accounted : Accounted (stage :: others) fabric) (served : Served stage fabric next after) :
    Accounted (next :: others) after := by
  have minded := served.wires.minded
  have identified := served.ids.identified
  have distinct := accounted.distinct
  rw [List.map_cons, List.nodup_cons] at distinct
  have apart {other : Stage σ} (member : other ∈ others) : other.core.bell ≠ stage.core.bell :=
    fun same => distinct.1 (same ▸ List.mem_map_of_mem member)
  refine ⟨?_, fun other member => ?_, fun other member => ?_, fun bell id registered => ?_⟩
  · rw [List.map_cons, List.nodup_cons, minded.bell]
    exact distinct
  · rcases List.mem_cons.mp member with rfl | beside
    · exact minded.wired (accounted.wired stage List.mem_cons_self)
    · exact (accounted.wired other (List.mem_cons_of_mem _ beside)).keep (.refl _) (minded.others _ (apart beside))
  · rcases List.mem_cons.mp member with rfl | beside
    · exact (accounted.named stage List.mem_cons_self).steps served.ids
    · exact (accounted.named other (List.mem_cons_of_mem _ beside)).congr rfl rfl
        fun owner => identified.others _ owner (apart beside)
  · rw [List.map_cons, minded.bell]
    by_cases own : bell = stage.core.bell
    · exact own ▸ List.mem_cons_self
    · exact accounted.owned bell id ((minded.others bell own).registrations id ▸ registered)

theorem replace (accounted : Accounted (before ++ stage :: later) fabric)
    (served : Served stage fabric next after) : Accounted (before ++ next :: later) after :=
  ((accounted.perm List.perm_middle).served served).perm List.perm_middle.symm

theorem forStages {action : Stage σ → Fabric ω → Stage σ × Fabric ω}
    (serves : ∀ stage (fabric : Fabric ω), Served stage fabric (action stage fabric).1 (action stage fabric).2)
    (before : List (Stage σ)) (accounted : Accounted (before ++ stages ++ later) fabric) :
    Accounted (before ++ (Pipeline.forStages action stages fabric).1 ++ later)
      (Pipeline.forStages action stages fabric).2 := by
  induction stages generalizing before fabric with
  | nil => exact accounted
  | cons stage stages ih =>
    rw [List.append_assoc, List.cons_append] at accounted
    have first := accounted.replace (serves stage fabric)
    rw [List.append_cons, ← List.append_assoc] at first
    have all := ih _ first
    rw [← List.append_cons] at all
    exact all

theorem closed (accounted : Accounted stages fabric) : fabric.Closed := by
  refine Fabric.closed_iff.mpr fun bell id missing => Nat.eq_zero_of_not_pos fun registered => ?_
  obtain ⟨stage, member, rfl⟩ := List.mem_map.mp (accounted.owned bell id registered)
  exact Bool.false_ne_true (missing.symm.trans (accounted.wired stage member).known)

/-- A new stage comes with a new bell, which is registered nowhere. -/
theorem build (accounted : Accounted stages fabric) {plan : Blueprint σ} (plain : plan.Plain) :
    Accounted ((plan.build fabric).1 :: stages) (plan.build fabric).2 := by
  let made := Wiring.make plan.info plan.inputs plan.outputs fabric
  have alike : Core.Alike made.core (plan.build fabric).1.core := Core.alike_foldl_register plan.entries _
  have wired : Wired made := Wiring.wired_make accounted.closed plan.info plan.inputs plan.outputs
  have named : Named made.core made.fabric := Bench.named_make plan.info plan.inputs plan.outputs fabric
  have spares {bell : BellId} (apart : bell ≠ made.core.bell) : Leaves bell fabric made.fabric :=
    (Core.spares_make plan.info plan.inputs plan.outputs fabric apart).leaves
  have missing : fabric.hasBell made.core.bell = false := by
    simp [made, Wiring.make, Core.make, Fabric.addBell, Fabric.hasBell, Fabric.bell?]
  have apart {stage : Stage σ} (member : stage ∈ stages) : stage.core.bell ≠ made.core.bell := fun same =>
    Bool.false_ne_true (missing.symm.trans (same ▸ (accounted.wired stage member).known))
  refine ⟨?_, fun stage member => ?_, fun stage member => ?_, fun bell id registered => ?_⟩
  · rw [List.map_cons, List.nodup_cons, alike.bell]
    refine ⟨fun member => ?_, accounted.distinct⟩
    obtain ⟨stage, listed, same⟩ := List.mem_map.mp member
    exact apart listed same
  · rcases List.mem_cons.mp member with rfl | old
    · exact wired.keep alike (.refl _)
    · exact (accounted.wired stage old).keep (.refl _) (spares (apart old))
  · rcases List.mem_cons.mp member with rfl | old
    · exact Bench.named_foldl_register named plain
    · refine (accounted.named stage old).congr rfl rfl fun owner => ?_
      exact Core.ownersStay_make plan.info plan.inputs plan.outputs fabric _ owner
  · rw [List.map_cons, alike.bell]
    by_cases own : bell = made.core.bell
    · exact own ▸ List.mem_cons_self
    · exact List.mem_cons_of_mem _ (accounted.owned bell id ((spares own).registrations id ▸ registered))

/-- The bells on a feed are those of the stages that are registered there. -/
theorem observers_perm (accounted : Accounted stages fabric) {feed : FeedId} {target : Feed BellId}
    (found : fabric.feed? feed = some target) :
    target.observers.Perm ((stages.filter fun stage => decide (0 < fabric.registrations stage.core.bell feed)).map
      fun stage => stage.core.bell) := by
  have count (bell : BellId) : fabric.registrations bell feed = target.observers.count bell := by
    rw [Fabric.registrations, found]
  have once : target.observers.Nodup := by
    refine List.nodup_iff_count_le_one.mpr fun bell => Nat.le_of_not_lt fun twice => ?_
    have positive : 0 < fabric.registrations bell feed := by rw [count]; omega
    obtain ⟨stage, member, rfl⟩ := List.mem_map.mp (accounted.owned bell feed positive)
    have most : fabric.registrations stage.core.bell feed ≤ 1 := (accounted.wired stage member).sound.once feed
    rw [count] at most
    omega
  refine (List.perm_ext_iff_of_nodup once (accounted.distinct.sublist (List.filter_sublist.map _))).mpr fun bell => ?_
  rw [← List.count_pos_iff, ← count]
  simp only [List.mem_map, List.mem_filter, decide_eq_true_eq]
  constructor
  · intro positive
    obtain ⟨stage, member, rfl⟩ := List.mem_map.mp (accounted.owned bell feed positive)
    exact ⟨stage, ⟨member, positive⟩, rfl⟩
  · rintro ⟨stage, ⟨-, positive⟩, rfl⟩
    exact positive

/-- The stages whose bells are registered on a feed stand behind the names that are listed there. -/
theorem attributed (accounted : Accounted stages fabric) (feed : FeedId) :
    Attributed stages feed (fabric.observerNames feed) := by
  let listed := stages.filter fun stage => decide (0 < fabric.registrations stage.core.bell feed)
  have registered {stage : Stage σ} :
      stage ∈ listed ↔ stage ∈ stages ∧ 0 < fabric.registrations stage.core.bell feed := by
    simp [listed]
  refine ⟨listed, List.filter_sublist, ?_, fun stage member => ?_, fun stage member few taps => ?_⟩
  · cases found : fabric.feed? feed with
    | none =>
      have nobody : listed = [] := by simp [listed, Fabric.registrations, found]
      rw [nobody, Fabric.observerNames, found]
      rfl
    | some target =>
      have names : (listed.map fun stage => stage.core.bell).filterMap fabric.owner? = listed.map Stage.id := by
        rw [List.filterMap_map, ← List.filterMap_eq_map]
        refine List.filterMap_congr fun stage member => ?_
        exact (accounted.named stage (registered.mp member).1).owner
      rw [← names, Fabric.observerNames, found]
      exact (accounted.observers_perm found).filterMap _
  · obtain ⟨member, positive⟩ := registered.mp member
    exact (accounted.wired stage member).sound.connected feed positive
  · have wired := accounted.wired stage member
    exact registered.mpr ⟨member, wired.hears few feed (wired.rooted feed taps) taps⟩

end Accounted

namespace Custody

variable [Behaviour ω σ]

theorem Job.served (discreet : Discreet ω σ) (proper : Proper ω σ) (stage : Stage σ) (fabric : Fabric ω) (job : Job) :
    Served stage fabric (job.perform stage fabric).1 (job.perform stage fabric).2 := by
  cases job with
  | setInput feed port =>
    simp only [perform]
    split
    next present =>
      split
      next connected => exact .joined present connected
      next => exact .refl stage fabric
    next => exact .refl stage fabric
  | detachInputs => exact .detachInputs stage fabric
  | detachFeed feed => exact .detachFeed stage feed fabric
  | write name value => exact .write stage name value fabric
  | start => exact .start discreet proper stage fabric
  | stop => exact .stop discreet proper stage fabric
  | poll => exact .poll discreet proper stage fabric

/-- The stages that someone has, and those that were dropped, stand behind all names. -/
def Books (custody : Custody ω σ) : Prop := Accounted (custody.members ++ custody.dropped) custody.fabric

variable {custody : Custody ω σ}

omit [Behaviour ω σ] in
/-- What is done to a stage in the pipeline leaves it in its place there. -/
theorem Books.replace {before later stages : List (Stage σ)} {stage next : Stage σ} {after : Fabric ω}
    (books : custody.Books) (served : Served stage custody.fabric next after)
    (split : custody.pipeline.stages = before ++ stage :: later) (changed : stages = before ++ next :: later) :
    ({ custody with pipeline := { custody.pipeline with stages }, fabric := after } : Custody ω σ).Books := by
  unfold Books members at books ⊢
  rw [split, ← List.append_assoc, List.append_assoc] at books
  simp only [changed]
  rw [← List.append_assoc, List.append_assoc]
  exact Accounted.replace books served

section Deals

variable (discreet : Discreet ω σ) (proper : Proper ω σ)

include discreet proper

theorem Books.handle (books : custody.Books) (job : Job) (keeper : Keeper) : (custody.handle job keeper).Books := by
  unfold Custody.handle
  cases keeper with
  | caller index =>
    simp only
    split
    next => exact books
    next stage found =>
      have inside := (List.getElem?_eq_some_iff.mp found).1
      unfold Books members at books ⊢
      rw [Pipeline.eq_take_cons_drop found, List.append_assoc, List.append_assoc] at books
      rw [List.set_eq_take_append_cons_drop, if_pos inside, List.append_assoc, List.append_assoc]
      exact Accounted.replace books (job.served discreet proper stage custody.fabric)
  | pipeline id =>
    simp only
    split
    next index stage known found =>
      obtain ⟨before, later, split, changed⟩ :=
        Pipeline.set_indexOf? known found (job.perform stage custody.fabric).1
      exact books.replace (job.served discreet proper stage custody.fabric) split changed
    next => exact books

omit [Behaviour ω σ] discreet proper in
/-- A stage that changes hands, or is dropped, goes on being there. -/
theorem Books.place (books : custody.Books) (index : Nat) : (custody.place index).Books := by
  unfold Books members at books ⊢
  unfold Custody.place
  split
  next => exact books
  next stage found =>
    obtain ⟨inside, rfl⟩ := List.getElem?_eq_some_iff.mp found
    have front := books.perm (((List.getElem_cons_eraseIdx_perm inside).symm.append_right _).append_right _)
    simp only
    split
    next accepted =>
      obtain ⟨rfl, -⟩ := Pipeline.add_ok accepted
      have last (stage : Stage σ) : (custody.held.eraseIdx index ++ custody.pipeline.stages ++
          stage :: custody.dropped).Perm _ := List.perm_middle
      exact (front.served (.lock _ custody.fabric)).perm (by simpa using (last _).symm)
    next =>
      have last := List.perm_append_singleton custody.held[index]
        (custody.held.eraseIdx index ++ custody.pipeline.stages ++ custody.dropped)
      exact front.perm (by simpa using last.symm)

/-- A stage that is taken back is stopped and disconnected, and then the others are disconnected from it. -/
theorem Books.takeBack (books : custody.Books) {id : String} {stage : Stage σ} {pipeline : Pipeline σ}
    {after : Fabric ω} (removed : custody.pipeline.remove id custody.fabric = .ok (stage, pipeline, after)) :
    ({ custody with held := stage :: custody.held, pipeline, fabric := after } : Custody ω σ).Books := by
  obtain ⟨before, old, later, whole, -, rfl, rfl, rfl⟩ := Pipeline.remove_ok removed
  have first : (custody.held ++ before ++ old :: (later ++ custody.dropped)).Perm _ := List.perm_middle
  have front : Accounted (old :: (custody.held ++ (before ++ later) ++ custody.dropped)) custody.fabric :=
    books.perm (by simpa [members, whole] using first)
  have loose := front.served ((Served.stop discreet proper old custody.fabric).trans (.detachInputs _ _))
  exact Accounted.forStages (.detachAll _) (_ :: custody.held) loose

/-- Whatever a caller does, those who are there stand behind all names. -/
theorem Books.deal (books : custody.Books) (deal : Deal σ) : (custody.deal deal).Books := by
  cases deal with
  | addFeed name format =>
    exact books.spared (fun bell => (Fabric.spares_addFeed custody.fabric name format bell).leaves) (.refl _)
  | build plan plain => exact Accounted.build books plain
  | handle keeper job => exact books.handle discreet proper job keeper
  | place index => exact books.place index
  | takeBack id =>
    simp only [Custody.deal]
    split
    next removed => exact books.takeBack discreet proper removed
    next => exact books
  | connect producer output consumer input =>
    simp only [Custody.deal]
    split
    next connected =>
      obtain ⟨source, feed, index, target, core, sourced, fed, known, found, joined, rfl⟩ :=
        Pipeline.connect_ok connected
      have listed : source ∈ custody.members ++ custody.dropped :=
        List.mem_append_left _ (List.mem_append_right _ (List.mem_of_find?_eq_some sourced))
      have present := (books.wired source listed).outlets feed (Core.mem_outputFeeds fed)
      obtain ⟨before, later, split, changed⟩ := Pipeline.set_indexOf? known found { target with core }
      exact books.replace (.joined (Option.all_some.trans present) joined) split changed
    next => exact books
  | push feed payload =>
    simp only [Custody.deal]
    split
    next accepted =>
      have fed : Fabric.Fed [feed] [] custody.fabric _ := Fabric.fed_push accepted
      exact books.spared fed.leaves (Fabric.sameOwners_push accepted).stay
    next => exact books
  | start =>
    refine books.forStages (fun stage fabric => ?_) custody.held
    split
    next => exact .refl stage fabric
    next => exact .start discreet proper stage fabric
  | stop => exact books.forStages (.stop discreet proper) custody.held
  | tick =>
    have ticked := books.forStages (.turn discreet proper) custody.held
    rw [← Pipeline.turns_eq_forStages] at ticked
    exact ticked

theorem Books.run (books : custody.Books) (deals : List (Deal σ)) : (custody.run deals).Books := by
  induction deals generalizing custody with
  | nil => exact books
  | cons deal deals ih => exact ih (books.deal discreet proper deal)

end Deals

/-- What was dropped is never touched again. -/
theorem dropped_deal (custody : Custody ω σ) (deal : Deal σ) : custody.dropped <+: (custody.deal deal).dropped := by
  cases deal with
  | handle keeper job =>
    cases keeper <;> simp only [deal, handle] <;> split <;> exact List.prefix_rfl
  | place index =>
    simp only [deal, place]
    split
    next => exact List.prefix_rfl
    next =>
      split
      next => exact List.prefix_rfl
      next => exact List.prefix_append ..
  | takeBack | connect | push =>
    simp only [deal]
    split <;> exact List.prefix_rfl
  | addFeed | build | start | stop | tick => exact List.prefix_rfl

theorem dropped_run (custody : Custody ω σ) (deals : List (Deal σ)) :
    custody.dropped <+: (custody.run deals).dropped := by
  induction deals generalizing custody with
  | nil => exact List.prefix_rfl
  | cons deal deals ih => exact (custody.dropped_deal deal).trans (ih _)

/-- Whatever a caller does with stages of any kinds, they have bells of their own, and every name that is listed on a
feed is the id of a stage that has an input connected to it: of one that the caller or the pipeline has, or of one that
the pipeline turned away. Where no stage of the latter kind is connected, the names are those of stages that there are,
and of all that are connected if they have one input at most; and these names are what the status of the pipeline
reports for an output. A stage that was connected when it was turned away goes on being listed whatever is done from
then on. -/
theorem names_attributed (discreet : Discreet ω σ) (proper : Proper ω σ) (surroundings : ω) (past : List (Deal σ)) :
    let custody := (empty surroundings : Custody ω σ).run past
    ((custody.members ++ custody.dropped).map fun stage => stage.core.bell).Nodup ∧
    (∀ feed, Attributed (custody.members ++ custody.dropped) feed (custody.fabric.observerNames feed)) ∧
    (∀ feed, (∀ stage ∈ custody.dropped, ¬ stage.Taps feed) →
      Attributed custody.members feed (custody.fabric.observerNames feed)) ∧
    (∀ report ∈ (custody.pipeline.status custody.fabric).stages, ∀ entry ∈ report.outputs,
      ∃ source ∈ custody.pipeline.stages, ∃ output ∈ source.core.outputs,
        report.id = source.id ∧ entry = (output.port, custody.fabric.observerNames output.feed)) ∧
    ∀ stage ∈ custody.dropped, stage.core.inputs.length ≤ 1 → ∀ feed, stage.Taps feed →
      ∀ future, stage.id ∈ (custody.run future).fabric.observerNames feed := by
  intro custody
  have nobody : (empty surroundings : Custody ω σ).Books := Accounted.empty surroundings
  have books : custody.Books := nobody.run discreet proper past
  refine ⟨books.distinct, books.attributed, fun feed loose => (books.attributed feed).of_append loose, ?_, ?_⟩
  · intro report listed entry shown
    obtain ⟨source, member, rfl⟩ := List.mem_map.mp listed
    obtain ⟨output, made, rfl⟩ := List.mem_map.mp shown
    exact ⟨source, member, output, made, rfl, rfl⟩
  · intro stage member few feed taps future
    have still := (custody.dropped_run future).subset member
    exact ((books.run discreet proper future).attributed feed).mem (List.mem_append_right _ still) few taps

def squaresPlan : Blueprint Builtin :=
  ⟨⟨SquareSource.name, SquareSource.description, Source.author⟩, [], [Source.framePort],
    SquareSettings.standard.properties, .inl ⟨SquareSource.ofSettings SquareSettings.standard⟩⟩

/-- Of two trackers with one id, one is in the pipeline behind a source, and the other one is in the caller's hands. -/
def twins : List (Deal Builtin) :=
  [.build squaresPlan (by decide), .build Bench.trackerPlan (by decide), .build Bench.trackerPlan (by decide),
    .handle (.caller 0) (.write idName (.text "hands")), .handle (.caller 1) (.write idName (.text "hands")),
    .handle (.caller 2) (.write idName (.text "squares")), .place 2, .place 1]

/-- The second tracker is turned away while it is connected to nothing. -/
def looseTwin : Custody Unit Builtin :=
  (empty ()).run (twins ++ [.connect "squares" 0 "hands" 0, .place 0])

/-- The second tracker is turned away while it is connected to the source. -/
def wiredTwin : Custody Unit Builtin :=
  (empty ()).run (twins ++ [.handle (.caller 0) (.setInput (some ⟨0⟩) 0), .place 0])

theorem names_attributed_twins :
    Discreet Unit Builtin ∧ Proper Unit Builtin ∧
      looseTwin.dropped.map Stage.id = ["hands"] ∧ Attributed looseTwin.members ⟨0⟩ ["hands"] ∧
      ∃ stage ∈ wiredTwin.dropped, stage.Taps ⟨0⟩ ∧ stage.id = "hands" ∧
        ∀ future, "hands" ∈ (wiredTwin.run future).fabric.observerNames ⟨0⟩ := by
  obtain ⟨-, -, loose, -⟩ := names_attributed Builtin.discreet_builtin Builtin.proper_builtin ()
    (twins ++ [.connect "squares" 0 "hands" 0, .place 0])
  obtain ⟨-, -, -, -, forever⟩ := names_attributed Builtin.discreet_builtin Builtin.proper_builtin ()
    (twins ++ [.handle (.caller 0) (.setInput (some ⟨0⟩) 0), .place 0])
  have names : looseTwin.fabric.observerNames ⟨0⟩ = ["hands"] := by decide +kernel
  have dropped : ∃ stage ∈ wiredTwin.dropped, stage.core.inputs.length ≤ 1 ∧ stage.Taps ⟨0⟩ ∧ stage.id = "hands" := by
    decide +kernel
  obtain ⟨stage, member, few, taps, named⟩ := dropped
  exact ⟨Builtin.discreet_builtin, Builtin.proper_builtin, by decide +kernel, names ▸ loose ⟨0⟩ (by decide +kernel),
    stage, member, taps, named, named ▸ forever stage member few ⟨0⟩ taps⟩

/-- The status of the pipeline reports that "hands" observes the source; but the only stage with that id has its input
connected to nothing, and its bell is not registered there. -/
theorem listed_but_dropped :
    (wiredTwin.pipeline.status wiredTwin.fabric).stages.map
        (fun report => (report.id, report.inputs.map Prod.snd, report.outputs.map Prod.snd)) =
      [("squares", [], [["hands"]]), ("hands", [false], [[], []])] ∧
    wiredTwin.members.map Stage.id = ["squares", "hands"] ∧
    ∀ stage ∈ wiredTwin.members, ¬ stage.Taps ⟨0⟩ ∧ wiredTwin.fabric.registrations stage.core.bell ⟨0⟩ = 0 := by
  decide +kernel

end Custody

end TouchTracking
