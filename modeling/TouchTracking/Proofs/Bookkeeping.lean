import TouchTracking.Pipeline.Bench

/-! Keeping books about the stages of a bench. Whatever a controller does moves stages between its hand and the
pipeline, does something to one of them, or does something to those in the pipeline in turn. A property that is kept
by each of these is kept by all that a bench can do; which property it is, what kinds of stage there are, and what can
be done to one of them is left open. -/
namespace TouchTracking

variable {ω σ : Type}

namespace Pipeline

variable {pipeline next left : Pipeline σ} {fabric after : Fabric ω} {stage : Stage σ} {id : String}

/-- A stage that is taken in comes last, its id locked; no stage that was there has that id. -/
theorem add_ok (added : pipeline.add stage = .ok next) :
    next = { pipeline with stages := pipeline.stages ++ [{ stage with core := stage.core.lockId }] } ∧
      ∀ other ∈ pipeline.stages, other.id ≠ stage.id := by
  unfold add at added
  split at added
  next => cases added
  next absent =>
    cases added
    refine ⟨rfl, fun other member same => absent ?_⟩
    exact List.find?_isSome.mpr ⟨other, member, beq_iff_eq.mpr same⟩

theorem eq_take_cons_drop {stages : List (Stage σ)} {index : Nat} (found : stages[index]? = some stage) :
    stages = stages.take index ++ stage :: stages.drop (index + 1) := by
  obtain ⟨inside, rfl⟩ := List.getElem?_eq_some_iff.mp found
  rw [List.getElem_cons_drop, List.take_append_drop]

theorem getElem?_indexOf? {index : Nat} (known : pipeline.indexOf? id = some index)
    (found : pipeline.stage? id = some stage) : pipeline.stages[index]? = some stage := by
  unfold indexOf? at known
  unfold stage? at found
  generalize pipeline.stages = stages at known found
  induction stages generalizing index with
  | nil => cases found
  | cons first stages ih =>
    rw [List.findIdx?_cons] at known
    rw [List.find?_cons] at found
    cases same : first.id == id with
    | true =>
      rw [same] at known found
      cases known
      exact found
    | false =>
      rw [same, if_neg Bool.false_ne_true] at known
      rw [same] at found
      obtain ⟨before, earlier, rfl⟩ := Option.map_eq_some_iff.mp known
      exact ih earlier found

theorem connect_ok {producer consumer : String} {output input : Nat}
    (connected : pipeline.connect producer output consumer input fabric = .ok (next, after)) :
    ∃ source feed index target core, pipeline.stage? producer = some source ∧
      source.core.output? output = some feed ∧ pipeline.indexOf? consumer = some index ∧
      pipeline.stage? consumer = some target ∧
      target.core.setInput (some feed) input fabric = .ok (core, after) ∧
      next = { pipeline with stages := pipeline.stages.set index { target with core } } := by
  unfold connect at connected
  split at connected
  next => cases connected
  next source sourced =>
    split at connected
    next => cases connected
    next feed fed =>
      split at connected
      next index target known found =>
        split at connected
        next => cases connected
        next core fabric accepted =>
          cases connected
          exact ⟨source, feed, index, target, core, sourced, fed, known, found, accepted, rfl⟩
      next => cases connected

theorem set_indexOf? {index : Nat} (known : pipeline.indexOf? id = some index)
    (found : pipeline.stage? id = some stage) (changed : Stage σ) :
    ∃ before later, pipeline.stages = before ++ stage :: later ∧
      pipeline.stages.set index changed = before ++ changed :: later := by
  have there := getElem?_indexOf? known found
  have inside := (List.getElem?_eq_some_iff.mp there).1
  refine ⟨_, _, eq_take_cons_drop there, ?_⟩
  rw [List.set_eq_take_append_cons_drop, if_pos inside]

/-- The stage that is taken out is stopped and disconnected; then the others are disconnected from it. -/
theorem remove_ok [Behaviour ω σ] (removed : pipeline.remove id fabric = .ok (stage, left, after)) :
    ∃ before old later, pipeline.stages = before ++ old :: later ∧ old.id = id ∧
      let stopped := old.stop fabric
      let loose := stopped.1.core.detachInputs stopped.2
      let others := forStages (detachAll (loose.1.outputs.map OutputPort.feed)) (before ++ later) loose.2
      stage = { stopped.1 with core := loose.1 } ∧ left = { pipeline with stages := others.1 } ∧
        after = others.2 := by
  unfold remove at removed
  cases known : pipeline.indexOf? id with
  | none => rw [known] at removed; cases removed
  | some index =>
    cases found : pipeline.stages[index]? with
    | none => simp only [known, found] at removed; cases removed
    | some old =>
      have there : old.id = id := by
        obtain ⟨inside, matched, -⟩ := List.findIdx?_eq_some_iff_getElem.mp known
        rw [(List.getElem?_eq_some_iff.mp found).2] at matched
        exact eq_of_beq matched
      simp only [known, found, List.eraseIdx_eq_take_drop_succ] at removed
      cases removed
      exact ⟨_, old, _, eq_take_cons_drop found, there, rfl, rfl, rfl⟩

theorem turns_eq_forStages [Behaviour ω σ] (stages : List (Stage σ)) (fabric : Fabric ω) :
    (turns stages fabric).2 = forStages (fun stage fabric => (turn stage fabric).2) stages fabric := by
  induction stages generalizing fabric with
  | nil => rfl
  | cons stage stages ih => simp only [turns, forStages, ← ih]

end Pipeline

namespace Bench

/-- What can be made of one stage and the fabric. -/
abbrev Step (ω σ : Type) := Stage σ → Fabric ω → Stage σ → Fabric ω → Prop

/-- A property of the stages that are held, of those in the pipeline and of the fabric, by which no two stages have
the same bell, and which is kept by whatever is done to one of the stages, and when stages change places. -/
structure Preserved (step : Step ω σ) (property : List (Stage σ) → List (Stage σ) → Fabric ω → Prop) : Prop where
  bell : ∀ {stage fabric next after}, step stage fabric next after → next.core.bell = stage.core.bell
  distinct : ∀ {held placed fabric}, property held placed fabric →
    ((held ++ placed).map fun stage => stage.core.bell).Nodup
  perm : ∀ {held others placed fabric}, property held placed fabric → held.Perm others → property others placed fabric
  sublist : ∀ {held others placed fabric}, property held placed fabric → others.Sublist held →
    property others placed fabric
  held : ∀ {stage held placed fabric next after}, step stage fabric next after →
    property (stage :: held) placed fabric → property (next :: held) placed after
  placed : ∀ {stage held before later fabric next after}, step stage fabric next after →
    property held (before ++ stage :: later) fabric → property held (before ++ next :: later) after
  added : ∀ {stage held placed fabric}, (∀ other ∈ placed, other.id ≠ stage.id) →
    property (stage :: held) placed fabric →
    property held (placed ++ [{ stage with core := stage.core.lockId }]) fabric
  removed : ∀ {stage held before later fabric}, property held (before ++ stage :: later) fabric →
    property (stage :: held) (before ++ later) fabric

/-- A property of the stages in any order, which is kept by what is done to the first of them, is kept wherever the
stage stands. -/
theorem preserved_of_first {step : Step ω σ} {property : List (Stage σ) → Fabric ω → Prop}
    (bell : ∀ {stage fabric next after}, step stage fabric next after → next.core.bell = stage.core.bell)
    (distinct : ∀ {stages fabric}, property stages fabric → (stages.map fun stage => stage.core.bell).Nodup)
    (perm : ∀ {stages others fabric}, property stages fabric → stages.Perm others → property others fabric)
    (sublist : ∀ {stages others fabric}, property stages fabric → others.Sublist stages → property others fabric)
    (first : ∀ {stage others fabric next after}, step stage fabric next after → property (stage :: others) fabric →
      property (next :: others) after)
    (lock : ∀ stage fabric, step stage fabric { stage with core := stage.core.lockId } fabric) :
    Preserved step fun held placed fabric => property (held ++ placed) fabric where
  bell := bell
  distinct := distinct
  perm has permuted := perm has (permuted.append_right _)
  sublist has fewer := sublist has (fewer.append_right _)
  held := first
  placed taken has := by
    rw [← List.append_assoc] at has ⊢
    exact perm (first taken (perm has List.perm_middle)) List.perm_middle.symm
  added {stage held placed fabric} _ has := by
    rw [List.cons_append] at has
    have last := perm (first (lock stage fabric) has) (List.perm_append_singleton _ _).symm
    rwa [List.append_assoc] at last
  removed has := by
    rw [← List.append_assoc] at has
    have out := perm has List.perm_middle
    rwa [List.append_assoc] at out

def Has (bench : Bench ω σ) (property : List (Stage σ) → List (Stage σ) → Fabric ω → Prop) : Prop :=
  property (bench.held.map Prod.snd) bench.pipeline.stages bench.fabric

section Preserved

variable {step : Step ω σ} {property : List (Stage σ) → List (Stage σ) → Fabric ω → Prop}
  (preserved : Preserved step property) {bench : Bench ω σ} {held before stages : List (Stage σ)}
  {stage next : Stage σ} {fabric after : Fabric ω} {name : String}

include preserved

/-- Whatever is done to the stages of the pipeline in turn. -/
theorem Preserved.forStages (before : List (Stage σ)) {action : Stage σ → Fabric ω → Stage σ × Fabric ω}
    (steps : ∀ stage fabric, step stage fabric (action stage fabric).1 (action stage fabric).2)
    (has : property held (before ++ stages) fabric) :
    property held (before ++ (Pipeline.forStages action stages fabric).1)
      (Pipeline.forStages action stages fabric).2 := by
  induction stages generalizing before fabric with
  | nil => exact has
  | cons stage stages ih =>
    have first := preserved.placed (steps stage fabric) has
    rw [List.append_cons] at first
    have all := ih _ first
    rwa [List.append_assoc] at all

theorem Preserved.release (has : bench.Has property) (name : String) : (bench.release name).Has property :=
  preserved.sublist has (List.filter_sublist.map _)

/-- A held stage can be seen as the first of those that are left when its name is freed. -/
theorem Preserved.first (has : bench.Has property) (found : bench.held.lookup name = some stage) :
    property (stage :: (bench.release name).held.map Prod.snd) bench.pipeline.stages bench.fabric := by
  obtain ⟨front, back, split, -⟩ := List.lookup_eq_some_iff.mp found
  have whole : bench.held.map Prod.snd = front.map Prod.snd ++ stage :: back.map Prod.snd := by simp [split]
  rw [Has, whole] at has
  refine preserved.sublist (preserved.perm has List.perm_middle) (List.Sublist.cons_cons _ ?_)
  have left : (bench.release name).held.map Prod.snd =
      (front.filter (·.1 ≠ name)).map Prod.snd ++ (back.filter (·.1 ≠ name)).map Prod.snd := by
    simp [Bench.release, split]
  rw [left]
  exact (List.filter_sublist.map _).append (List.filter_sublist.map _)

theorem Preserved.hold (bench : Bench ω σ)
    (has : property (stage :: bench.held.map Prod.snd) bench.pipeline.stages fabric) (name : String) :
    (bench.hold name stage fabric).Has property :=
  preserved.sublist has ((List.filter_sublist.map _).cons_cons stage)

/-- Putting a stage back by its bell replaces just the one that has it. -/
theorem Preserved.put {later : List (Stage σ)} (taken : step stage fabric next after)
    (has : property held (before ++ stage :: later) fabric) :
    ((before ++ stage :: later).map fun old => if old.core.bell = next.core.bell then next else old) =
      before ++ next :: later := by
  have bell := preserved.bell taken
  have distinct := (preserved.distinct has).sublist ((List.sublist_append_right ..).map _)
  have apart := (List.nodup_cons.mp ((List.perm_middle.map _).nodup_iff.mp distinct)).1
  have kept {beside : List (Stage σ)} (subset : beside ⊆ before ++ later) :
      (beside.map fun old => if old.core.bell = next.core.bell then next else old) = beside := by
    refine (List.map_congr_left fun old member => if_neg fun same => apart ?_).trans (List.map_id' beside)
    exact (same.trans bell) ▸ List.mem_map_of_mem (subset member)
  rw [List.map_append, List.map_cons, kept (List.subset_append_left ..), kept (List.subset_append_right ..),
    if_pos bell.symm]

theorem Preserved.store (has : bench.Has property) (found : bench.stage? name = some stage)
    (taken : step stage bench.fabric next after) :
    (bench.store name next after).Has property := by
  cases held : bench.held.lookup name with
  | some old =>
    rw [stage?, held] at found
    cases found
    have stored : bench.store name next after = bench.hold name next after := by simp [Bench.store, held]
    rw [stored]
    exact preserved.held taken (preserved.first has held)
  | none =>
    rw [stage?, held] at found
    obtain ⟨_, -, found⟩ := Option.bind_eq_some_iff.mp found
    obtain ⟨-, before, later, split, -⟩ := List.find?_eq_some_iff_append.mp found
    rw [Has, split] at has
    have put := preserved.put taken has
    simp only [Has, Bench.store, held, Option.isSome_none, Bool.false_eq_true, if_false, split, put]
    exact preserved.placed taken has

theorem Preserved.place {placed : Bench ω σ} {result : Except Pipeline.PipelineError Unit}
    (has : bench.Has property) (done : bench.place name = some (result, placed)) : placed.Has property := by
  obtain ⟨stage, found, done⟩ := Option.map_eq_some_iff.mp done
  simp only at done
  split at done
  next refused =>
    cases done
    exact preserved.release has name
  next pipeline accepted =>
    cases done
    obtain ⟨rfl, absent⟩ := Pipeline.add_ok accepted
    exact preserved.added absent (preserved.first has found)

variable [Behaviour ω σ]

theorem Preserved.remove {pipeline left : Pipeline σ} {id : String}
    (loosen : ∀ stage fabric, let stopped := Stage.stop stage fabric
      let loose := stopped.1.core.detachInputs stopped.2
      step stage fabric { stopped.1 with core := loose.1 } loose.2)
    (detach : ∀ feeds stage fabric, step stage fabric (Pipeline.detachAll feeds stage fabric).1
      (Pipeline.detachAll feeds stage fabric).2)
    (has : property held pipeline.stages fabric) (done : pipeline.remove id fabric = .ok (stage, left, after)) :
    property (stage :: held) left.stages after := by
  obtain ⟨before, old, later, split, -, rfl, rfl, rfl⟩ := Pipeline.remove_ok done
  rw [split] at has
  have out := preserved.removed (preserved.placed (loosen old fabric) has)
  exact preserved.forStages [] (detach _) out

theorem Preserved.takeBack {taken : Bench ω σ} {id : String}
    (loosen : ∀ stage fabric, let stopped := Stage.stop stage fabric
      let loose := stopped.1.core.detachInputs stopped.2
      step stage fabric { stopped.1 with core := loose.1 } loose.2)
    (detach : ∀ feeds stage fabric, step stage fabric (Pipeline.detachAll feeds stage fabric).1
      (Pipeline.detachAll feeds stage fabric).2)
    (has : bench.Has property) (done : bench.takeBack id = .ok taken) : taken.Has property := by
  unfold Bench.takeBack at done
  cases removed : bench.pipeline.remove id bench.fabric with
  | error => rw [removed] at done; cases done
  | ok outcome =>
    obtain ⟨stage, pipeline, fabric⟩ := outcome
    have out := preserved.remove loosen detach has removed
    rw [removed] at done
    simp only [Except.map, Except.ok.injEq] at done
    subst done
    split
    next => exact preserved.sublist out (List.sublist_cons_self ..)
    next name _ _ => exact preserved.hold { bench with pipeline, fabric } out name

omit [Behaviour ω σ] in
theorem Preserved.connect {producer consumer : String} {output input : Nat} {pipeline : Pipeline σ}
    (join : ∀ source ∈ bench.pipeline.stages, ∀ feed, source.core.output? output = some feed →
      ∀ target core, target.core.setInput (some feed) input bench.fabric = .ok (core, after) →
        step target bench.fabric { target with core } after)
    (has : bench.Has property)
    (done : bench.pipeline.connect producer output consumer input bench.fabric = .ok (pipeline, after)) :
    ({ bench with pipeline, fabric := after } : Bench ω σ).Has property := by
  obtain ⟨source, feed, index, target, core, sourced, fed, known, found, connected, rfl⟩ := Pipeline.connect_ok done
  obtain ⟨before, later, split, changed⟩ := Pipeline.set_indexOf? known found { target with core }
  rw [Has, split] at has
  simp only [Has, changed]
  exact preserved.placed (join source (List.mem_of_find?_eq_some sourced) feed fed target core connected) has

theorem Preserved.start (starts : ∀ stage fabric, let next := if Stage.isStarted stage then (stage, fabric)
      else (stage.start fabric).2
    step stage fabric next.1 next.2) (has : bench.Has property) : (bench.drive Pipeline.start).Has property :=
  preserved.forStages [] starts has

theorem Preserved.stop (stops : ∀ stage fabric, step stage fabric (Stage.stop stage fabric).1 (stage.stop fabric).2)
    (has : bench.Has property) : (bench.drive Pipeline.stop).Has property :=
  preserved.forStages [] stops has

theorem Preserved.tick (turns : ∀ stage fabric, step stage fabric (Pipeline.turn stage fabric).2.1
      (Pipeline.turn stage fabric).2.2) (has : bench.Has property) : (ticks 1 bench).2.Has property := by
  have ticked := preserved.forStages [] turns has
  rw [← Pipeline.turns_eq_forStages] at ticked
  exact ticked

end Preserved

end Bench

end TouchTracking
