import TouchTracking.Config.Build
import TouchTracking.Proofs.Loading
import TouchTracking.Proofs.Names
import TouchTracking.Proofs.Signs

/-! The pipeline that loaded settings describe. A number that is written to a property of integers stands there as it
was, and so the stages read the very settings out of their properties that were loaded: nothing is cut off, since
what was loaded fits its field, and a seed with the highest bit set is refused as a negative number. -/
namespace TouchTracking

open Binary (Double)
open Bench (Worked)

variable {ω : Type}

theorem mapError_eq_ok {ε δ α : Type} {change : ε → δ} {result : Except ε α} {value : α}
    (done : result.mapError change = .ok value) : result = .ok value := by
  cases result with
  | error => cases done
  | ok =>
    cases done
    rfl

/-- What is done to one of two stages and then to the other leaves both in order. -/
theorem Orderly.pair {first second first' second' : Stage Builtin} {fabric between after : Fabric ω}
    (orderly : Orderly [first, second] fabric) (done : Builtin.Handled first fabric first' between)
    (done' : Builtin.Handled second between second' after) : Orderly [first', second'] after := by
  have front : Orderly ([] ++ first :: [second]) fabric := orderly
  have back : Orderly ([first'] ++ second :: []) between := front.replace done
  exact back.replace done'

namespace Core

variable {core next : Core} {fabric after : Fabric ω}

theorem writeProperty_int {name : String} {value : Int} {property : Property} (other : name ≠ idName)
    (found : core.properties.get? name = some property) (kind : property.kind = .int)
    (written : core.writeProperty name (.int value) fabric = .ok (next, after)) :
    after = fabric ∧ next = { core with properties := next.properties } ∧
      property.violation (.int value) = none ∧
      ∀ name', next.properties.get? name' =
        if name' = name then some { property with value := .int value } else core.properties.get? name' := by
  unfold writeProperty at written
  rw [if_neg other] at written
  split at written
  next => cases written
  next properties taken =>
    cases written
    obtain ⟨old, new, here, set, rest⟩ := PropertyBag.set_ok taken
    rw [found] at here
    cases here
    obtain ⟨-, converted, fits, allowed, rfl⟩ := Property.set_ok set
    rw [kind] at fits
    cases fits
    exact ⟨rfl, rfl, allowed, rest⟩

end Core

namespace Config.Settings

variable {core next : Core} {fabric after : Fabric ω}

/-- A table of properties of integers under names of their own, none of which is that of the id. -/
structure Numeric (entries : List (String × Property)) : Prop where
  distinct : (entries.map Prod.fst).Nodup
  others : ∀ entry ∈ entries, entry.1 ≠ idName
  kinds : ∀ entry ∈ entries, entry.2.kind = .int

theorem Numeric.absent {entries : List (String × Property)} (numeric : Numeric entries) :
    idName ∉ entries.map Prod.fst := by
  intro member
  obtain ⟨entry, known, same⟩ := List.mem_map.mp member
  exact numeric.others entry known same

/-- A new stage has the properties of its kind, and a text for its id. -/
theorem Numeric.registered {entries : List (String × Property)} (numeric : Numeric entries) {info : StageInfo}
    {inputs outputs : List Port} (fresh : core = entries.foldl (fun core entry => core.register entry.1 entry.2)
      (Core.make info inputs outputs fabric).1) :
    (∀ entry ∈ entries, core.properties.get? entry.1 = some entry.2) ∧
      ∃ identity, core.properties.get? idName = some identity ∧ identity.kind = .string := by
  obtain ⟨there, kept⟩ := PropertyBag.get?_foldl_register numeric.distinct
    (Core.make info inputs outputs fabric).1.properties
  rw [← Core.properties_foldl_register, ← fresh] at there kept
  have text := (kept idName numeric.absent).trans ((PropertyBag.get?_register ..).trans (if_pos rfl))
  exact ⟨there, _, text, rfl⟩

theorem writeAll_ok {id : String} {values : List (String × Int)}
    (distinct : (values.map Prod.fst).Nodup) (others : ∀ value ∈ values, value.1 ≠ idName)
    (present : ∀ value ∈ values, ∃ property, core.properties.get? value.1 = some property ∧ property.kind = .int)
    (written : writeAll id values core fabric = .ok (next, after)) :
    after = fabric ∧ next = { core with properties := next.properties } ∧
      (∀ name ∉ values.map Prod.fst, next.properties.get? name = core.properties.get? name) ∧
      ∀ value ∈ values, ∃ property, core.properties.get? value.1 = some property ∧
        property.violation (.int value.2) = none ∧
        next.properties.get? value.1 = some { property with value := .int value.2 } := by
  induction values generalizing core fabric with
  | nil =>
    cases written
    exact ⟨rfl, rfl, fun _ _ => rfl, nofun⟩
  | cons value values ih =>
    obtain ⟨name, number⟩ := value
    obtain ⟨apart, rest⟩ := List.nodup_cons.mp distinct
    obtain ⟨property, found, kind⟩ := present _ List.mem_cons_self
    unfold writeAll at written
    split at written
    next => cases written
    next middle between first =>
      obtain ⟨rfl, same, allowed, changed⟩ :=
        Core.writeProperty_int (others _ List.mem_cons_self) found kind first
      have still {other : String × Int} (later : other ∈ values) :
          middle.properties.get? other.1 = core.properties.get? other.1 := by
        rw [changed, if_neg]
        intro same
        exact apart (same ▸ List.mem_map_of_mem later)
      obtain ⟨rfl, same', kept, there⟩ := ih rest (fun other later => others other (List.mem_cons_of_mem _ later))
        (fun other later => still later ▸ present other (List.mem_cons_of_mem _ later)) written
      refine ⟨rfl, by rw [same', same], fun other absent => ?_, fun other member => ?_⟩
      · rw [List.map_cons, List.mem_cons, not_or] at absent
        rw [kept other absent.2, changed, if_neg absent.1]
      · rcases List.mem_cons.mp member with rfl | later
        · exact ⟨property, found, allowed, by rw [kept _ apart, changed, if_pos rfl]⟩
        · exact still later ▸ there other later

/-- A stage that was made with an id and with values for its properties. -/
structure Made (id : String) (entries : List (String × Property)) (values : List (String × Int))
    (fresh : Stage Builtin) (made : Fabric ω) (stage : Stage Builtin) (after : Fabric ω) : Prop where
  worked : Worked fresh made stage after
  body : stage.body = fresh.body
  core : stage.core = { fresh.core with properties := stage.core.properties }
  feeds : after.feeds = made.feeds
  named : stage.id = id
  holds : ∀ value ∈ values, ∃ property, (value.1, property) ∈ entries ∧
    property.violation (.int value.2) = none ∧
    stage.core.properties.get? value.1 = some { property with value := .int value.2 }

theorem Made.lock {id : String} {entries : List (String × Property)} {values : List (String × Int)}
    {fresh stage : Stage Builtin} {made : Fabric ω} (done : Made id entries values fresh made stage after)
    (numeric : Numeric entries) :
    Made id entries values fresh made { stage with core := stage.core.lockId } after := by
  refine ⟨done.worked.more .lock, done.body, ?_, done.feeds, (Core.id_lockId _).trans done.named,
    fun value member => ?_⟩
  · dsimp only
    rw [Core.lockId_same, done.core]
  · obtain ⟨property, known, allowed, found⟩ := done.holds value member
    exact ⟨property, known, allowed, (Core.get?_lockId (numeric.others _ known)).trans found⟩

/-- What a fresh stage has beside properties it still has. -/
theorem Made.kept {id : String} {entries : List (String × Property)} {values : List (String × Int)}
    {fresh stage : Stage Builtin} {made : Fabric ω} (done : Made id entries values fresh made stage after) :
    stage.core.inputs = fresh.core.inputs ∧ stage.core.lastFailure = fresh.core.lastFailure ∧
      stage.isStarted = fresh.isStarted ∧ ∀ port, stage.core.output? port = fresh.core.output? port := by
  rw [Stage.isStarted, done.core]
  exact ⟨rfl, rfl, rfl, fun _ => rfl⟩

theorem worked_write {stage : Stage Builtin} {name : String} {value : Property.Value}
    (written : stage.core.writeProperty name value fabric = .ok (next, after)) :
    Worked stage fabric { stage with core := next } after := by
  have worked := Worked.deed stage fabric (.hand (.write name value))
  simpa only [Bench.Deed.perform, Bench.Job.perform, Core.setProperty, written] using worked

theorem worked_writeAll {id : String} {values : List (String × Int)} {stage : Stage Builtin}
    (written : writeAll id values stage.core fabric = .ok (next, after)) :
    Worked stage fabric { stage with core := next } after := by
  induction values generalizing stage fabric with
  | nil =>
    cases written
    exact .idle
  | cons value values ih =>
    unfold writeAll at written
    split at written
    next => cases written
    next middle between first =>
      have rest : Worked ({ stage with core := middle } : Stage Builtin) between { stage with core := next } after :=
        ih written
      exact (worked_write first).trans rest

theorem made_of_ok {factory : Factory ω Builtin} {name id : String} {entries : List (String × Property)}
    {values : List (String × Int)} {fresh stage : Stage Builtin} {made : Fabric ω} {info : StageInfo}
    {inputs outputs : List Port} (created : factory.create name fabric = .ok (fresh, made))
    (core : fresh.core = entries.foldl (fun core entry => core.register entry.1 entry.2)
      (Core.make info inputs outputs fabric).1)
    (numeric : Numeric entries) (listed : values.map Prod.fst = entries.map Prod.fst)
    (done : makeStage factory name id values fabric = .ok (stage, after)) :
    Made id entries values fresh made stage after := by
  obtain ⟨there, identity, text, kind⟩ := numeric.registered core
  unfold makeStage at done
  obtain ⟨⟨first, between⟩, began, done⟩ := bind_eq_ok done
  cases created.symm.trans (mapError_eq_ok began)
  obtain ⟨⟨middle, renamed⟩, assigned, done⟩ := bind_eq_ok done
  obtain ⟨⟨last, final⟩, written, done⟩ := bind_eq_ok done
  cases done
  have assigned := mapError_eq_ok assigned
  obtain ⟨same, locked⟩ := Core.assignId_text text kind assigned
  obtain ⟨-, -, -, rest, rfl⟩ := Core.assignId_ok assigned
  have entry (value : String × Int) (member : value ∈ values) :
      ∃ property, (value.1, property) ∈ entries ∧ middle.properties.get? value.1 = some property := by
    obtain ⟨⟨_, property⟩, known, rfl⟩ := List.mem_map.mp (listed ▸ List.mem_map_of_mem member)
    exact ⟨property, known, (rest _ (numeric.others _ known)).trans (there _ known)⟩
  have others : ∀ value ∈ values, value.1 ≠ idName := by
    intro value member
    obtain ⟨property, known, -⟩ := entry value member
    exact numeric.others _ known
  have present : ∀ value ∈ values, ∃ property, middle.properties.get? value.1 = some property ∧
      property.kind = .int := by
    intro value member
    obtain ⟨property, known, found⟩ := entry value member
    exact ⟨property, found, numeric.kinds _ known⟩
  obtain ⟨rfl, same', kept', there'⟩ := writeAll_ok (listed ▸ numeric.distinct) others present written
  have renames : fresh.core.writeProperty idName (.text id) made =
      .ok (middle, made.modifyBell fresh.core.bell ({ · with owner := id })) := by
    rw [Core.writeProperty, if_pos rfl]
    exact assigned
  refine ⟨(worked_write renames).trans (worked_writeAll written), rfl, by rw [same', same], rfl, ?_,
    fun value member => ?_⟩
  · have final := (kept' idName (listed ▸ numeric.absent)).trans locked
    rw [Stage.id, Core.id, final]
    rfl
  · obtain ⟨property, known, found⟩ := entry value member
    obtain ⟨old, here, allowed, holds⟩ := there' value member
    cases found.symm.trans here
    exact ⟨property, known, allowed, holds⟩

theorem numeric_squares : Numeric SquareSettings.standard.properties :=
  ⟨by decide, by decide, by decide⟩

theorem numeric_tracker : Numeric BlobTracker.properties :=
  ⟨by decide, by decide, by decide⟩

section Reading

variable {settings : Settings} {id : String} {entries : List (String × Property)} {values : List (String × Int)}
  {fresh stage : Stage Builtin} {made : Fabric ω}

theorem naturalOf_of_made (done : Made id entries values fresh made stage after) {name : String} {n : Int}
    (listed : (name, n) ∈ values) (fallback : Nat) :
    SquareSettings.naturalOf stage.core.properties name fallback = n.toNat := by
  obtain ⟨property, -, -, found⟩ := done.holds _ listed
  rw [SquareSettings.naturalOf, found]
  rfl

/-- A seed that is not taken for a negative number is the number that stands for it. -/
theorem toNat_signed64 {seed : Nat} (bounded : seed < 1 <<< 64) (natural : 0 ≤ SquareSettings.signed64 seed) :
    (SquareSettings.signed64 seed).toNat = seed := by
  have low : seed < 1 <<< 63 :=
    Nat.not_le.mp fun high => Int.not_lt.mpr natural (SquareSettings.signed64_neg high bounded)
  rw [SquareSettings.signed64_of_lt low, Int.toNat_natCast]

theorem minimum_seed (squares : SquareSettings) {property : Property}
    (known : ("seed", property) ∈ squares.properties) : property.minimum = some (Double.ofInt 0) := by
  simp only [SquareSettings.properties, List.mem_cons, Prod.mk.injEq, String.reduceEq, false_and, false_or,
    true_and, List.not_mem_nil, or_false] at known
  subst known
  rfl

theorem violation_of_lt {property : Property} {minimum : Double} {n : Int}
    (bounded : property.minimum = some minimum) (low : (Double.ofInt n).lt minimum = true) :
    property.violation (.int n) ≠ none := by
  simp [Property.violation, Property.Value.toNumber?, bounded, low]

theorem seed_natural (done : Made id SquareSettings.standard.properties settings.sourceValues fresh made stage after) :
    0 ≤ SquareSettings.signed64 settings.squares.seed := by
  obtain ⟨property, known, allowed, -⟩ := done.holds ("seed", SquareSettings.signed64 settings.squares.seed)
    (by simp [sourceValues])
  dsimp only at allowed
  refine Int.not_lt.mp fun negative => ?_
  exact violation_of_lt (minimum_seed _ known) (Double.lt_of_neg negative) allowed

theorem squares_of_made (bounded : settings.squares.Bounded)
    (done : Made id SquareSettings.standard.properties settings.sourceValues fresh made stage after) :
    SquareSettings.ofProperties stage.core.properties = settings.squares := by
  have seed := toNat_signed64 bounded.seed (seed_natural done)
  have reads (name : String) (n : Nat) (listed : (name, (n : Int)) ∈ settings.sourceValues) (fits : n < 1 <<< 32)
      (fallback : Nat) :
      SquareSettings.naturalOf stage.core.properties name fallback % (1 <<< 32) = n := by
    rw [naturalOf_of_made done listed, Int.toNat_natCast, Nat.mod_eq_of_lt fits]
  simp only [SquareSettings.ofProperties]
  rw [reads "width" settings.squares.width (by simp [sourceValues]) bounded.width,
    reads "height" settings.squares.height (by simp [sourceValues]) bounded.height,
    reads "blobs" settings.squares.blobs (by simp [sourceValues]) bounded.blobs,
    reads "size" settings.squares.size (by simp [sourceValues]) bounded.size,
    reads "speed" settings.squares.speed (by simp [sourceValues]) bounded.speed,
    naturalOf_of_made done (n := SquareSettings.signed64 settings.squares.seed) (by simp [sourceValues]), seed]

theorem params_of_made (bounded : settings.tracker.Bounded)
    (done : Made id BlobTracker.properties settings.trackerValues fresh made stage after) :
    BlobTracker.paramsOf stage.core = settings.tracker := by
  have reads (name : String) (n : Nat) (listed : (name, (n : Int)) ∈ settings.trackerValues) (fits : n < 1 <<< 32) :
      ∃ property, stage.core.properties.get? name = some property ∧ property.value.toInt.toNat % (1 <<< 32) = n := by
    obtain ⟨property, -, -, found⟩ := done.holds _ listed
    exact ⟨_, found, Nat.mod_eq_of_lt fits⟩
  obtain ⟨_, minSize, minSize_⟩ := reads "min_size" _ (by simp [trackerValues]) bounded.minSize
  obtain ⟨_, maxSize, maxSize_⟩ := reads "max_size" _ (by simp [trackerValues]) bounded.maxSize
  obtain ⟨_, minAge, minAge_⟩ := reads "min_age" _ (by simp [trackerValues]) bounded.minAge
  obtain ⟨_, maxAge, maxAge_⟩ := reads "max_age" _ (by simp [trackerValues]) bounded.maxAge
  simp only [BlobTracker.paramsOf, minSize, maxSize, minAge, maxAge, minSize_, maxSize_, minAge_, maxAge_]

end Reading

/-- A source and a tracker that stand in order, carry the settings in their properties, and are connected by a feed of
images. -/
structure Linked (settings : Settings) (source tracker : Stage Builtin) (frames drawn told : FeedId)
    (fabric : Fabric ω) : Prop where
  orderly : Orderly [source, tracker] fabric
  sourceNamed : source.id = sourceId
  trackerNamed : tracker.id = trackerId
  sourceFine : source.core.lastFailure = none
  trackerFine : tracker.core.lastFailure = none
  squares : SquareSettings.ofProperties source.core.properties = settings.squares
  params : BlobTracker.paramsOf tracker.core = settings.tracker
  output : source.core.output? 0 = some frames
  input : tracker.core.input? 0 = some frames
  picture : tracker.core.output? 0 = some drawn
  touches : tracker.core.output? 1 = some told
  apart : told ≠ frames ∧ told ≠ drawn
  framesFormat : fabric.format? frames = some .image
  drawnFormat : fabric.format? drawn = some .image
  toldFormat : fabric.format? told = some .touch

end Config.Settings

def Builtin.factory : Factory ω Builtin := Factory.ofConstructors id Builtin.constructors

theorem Builtin.create_squares (fabric : Fabric ω) :
    Builtin.factory.create SquareSource.name fabric = .ok (Builtin.squares fabric) := rfl

theorem Builtin.create_tracker (fabric : Fabric ω) :
    Builtin.factory.create BlobTracker.name fabric = .ok (Builtin.tracker fabric) := rfl

theorem Builtin.core_squares (fabric : Fabric ω) :
    (Builtin.squares fabric).1.core =
      SquareSettings.standard.properties.foldl (fun core entry => core.register entry.1 entry.2)
        (Core.make ⟨SquareSource.name, SquareSource.description, Source.author⟩ [] [Source.framePort] fabric).1 :=
  rfl

theorem Builtin.core_tracker (fabric : Fabric ω) :
    (Builtin.tracker fabric).1.core =
      BlobTracker.properties.foldl (fun core entry => core.register entry.1 entry.2)
        (Core.make BlobTracker.info [BlobTracker.maskPort] [BlobTracker.annotatedPort, BlobTracker.touchesPort]
          fabric).1 :=
  rfl

namespace Config.Settings

theorem Made.orderly {stages : List (Stage Builtin)} {id kind : String} {entries : List (String × Property)}
    {values : List (String × Int)} {make : Fabric ω → Stage Builtin × Fabric ω} {stage : Stage Builtin}
    {fabric after : Fabric ω} (done : Made id entries values (make fabric).1 (make fabric).2 stage after)
    (known : (kind, make) ∈ Builtin.constructors) (orderly : Orderly stages fabric) :
    Orderly (stage :: stages) after := by
  have front : Orderly ([] ++ (make fabric).1 :: stages) (make fabric).2 := Bench.made_orderly orderly known
  exact front.replace done.worked.handled

section Linking

variable {settings : Settings} {fabric first second built : Fabric ω} {source tracker : Stage Builtin} {core : Core}
  (madeSource : Made sourceId SquareSettings.standard.properties settings.sourceValues (Builtin.squares fabric).1
    (Builtin.squares fabric).2 source first)
  (madeTracker : Made trackerId BlobTracker.properties settings.trackerValues (Builtin.tracker first).1
    (Builtin.tracker first).2 tracker second)

include madeSource madeTracker

theorem orderly_of_made (closed : fabric.Closed) : Orderly [source, tracker] second := by
  have nothing : Orderly [] fabric := ⟨List.nodup_nil, fun _ member => absurd member List.not_mem_nil,
    Fabric.closed_iff.mp closed⟩
  have alone := madeSource.orderly List.mem_cons_self nothing
  have both := madeTracker.orderly (List.mem_cons_of_mem _ List.mem_cons_self) alone
  exact both.perm (.swap ..)

/-- The feeds of the source and of the tracker, in the order in which they were added. -/
theorem feeds_of_made :
    second.feed? ⟨fabric.feeds.size⟩ = some (Feed.empty "image" .image) ∧
      second.feed? ⟨first.feeds.size⟩ = some (Feed.empty "annotated" .image) ∧
      second.feed? ⟨first.feeds.size + 1⟩ = some (Feed.empty "touches" .touch) ∧
      first.feeds.size = fabric.feeds.size + 1 := by
  have early : first.feeds = fabric.feeds.push (Feed.empty "image" .image) := madeSource.feeds
  have late : second.feeds = (first.feeds.push (Feed.empty "annotated" .image)).push (Feed.empty "touches" .touch) :=
    madeTracker.feeds
  have size : first.feeds.size = fabric.feeds.size + 1 := by rw [early, Array.size_push]
  simp only [Fabric.feed?]
  refine ⟨?_, ?_, ?_, size⟩
  · rw [late, Array.getElem?_push, Array.size_push, if_neg (by omega), Array.getElem?_push, if_neg (by omega), early,
      Array.getElem?_push_size]
  · rw [late, Array.getElem?_push, Array.size_push, if_neg (by omega), Array.getElem?_push_size]
  · rw [late, Array.getElem?_push, Array.size_push, if_pos rfl]

theorem orderly_of_connected (closed : fabric.Closed)
    (connected : tracker.core.setInput (some ⟨fabric.feeds.size⟩) 0 second = .ok (core, built)) :
    Orderly [source, { tracker with core }] built := by
  have orderly := orderly_of_made madeSource madeTracker closed
  have output : source.core.output? 0 = some ⟨fabric.feeds.size⟩ := madeSource.kept.2.2.2 0
  have present := (orderly.fits source List.mem_cons_self).outlets _ (Core.mem_outputFeeds output)
  have joined := Bench.handled_deed tracker second (.hand (.connect (some ⟨fabric.feeds.size⟩) 0))
  simp only [Bench.Deed.perform, Bench.Job.perform, Option.all_some, if_pos present, connected] at joined
  exact orderly.pair (.refl source second) joined

/-- What the connection of a fresh source to a fresh tracker leaves behind. -/
theorem linked_of_made (closed : fabric.Closed) (sound : settings.Sound)
    (connected : tracker.core.setInput (some ⟨fabric.feeds.size⟩) 0 second = .ok (core, built)) :
    Linked settings source { tracker with core } ⟨fabric.feeds.size⟩ ⟨first.feeds.size⟩ ⟨first.feeds.size + 1⟩ built ∧
      built.sequence ⟨first.feeds.size + 1⟩ = 0 := by
  have params := params_of_made sound.tracker madeTracker
  obtain ⟨-, sourceFine, -, sourceOutputs⟩ := madeSource.kept
  obtain ⟨inputs, trackerFine, -, trackerOutputs⟩ := madeTracker.kept
  obtain ⟨framesFeed, drawnFeed, toldFeed, size⟩ := feeds_of_made madeSource madeTracker
  have touches : tracker.core.output? 1 = some ⟨first.feeds.size + 1⟩ := by
    have size : (first.feeds.push (Feed.empty "annotated" .image)).size = first.feeds.size + 1 := Array.size_push ..
    rw [trackerOutputs, ← size]
    rfl
  obtain ⟨-, -, same, -⟩ := Core.setInput_ok connected
  refine ⟨?_, ?_⟩
  · constructor
    case orderly => exact orderly_of_connected madeSource madeTracker closed connected
    case sourceNamed => exact madeSource.named
    case trackerNamed =>
      rw [same]
      exact madeTracker.named
    case sourceFine => exact sourceFine
    case trackerFine =>
      rw [same]
      exact trackerFine
    case squares => exact squares_of_made sound.squares madeSource
    case params =>
      rw [same]
      exact params
    case output => exact sourceOutputs 0
    case input =>
      rw [same, Core.input?, inputs]
      rfl
    case picture =>
      rw [same]
      exact trackerOutputs 0
    case touches =>
      rw [same]
      exact touches
    case apart =>
      simp only [size, ne_eq, FeedId.mk.injEq]
      omega
    case framesFormat =>
      rw [Core.format?_setInput connected, Fabric.format?, framesFeed]
      rfl
    case drawnFormat =>
      rw [Core.format?_setInput connected, Fabric.format?, drawnFeed]
      rfl
    case toldFormat =>
      rw [Core.format?_setInput connected, Fabric.format?, toldFeed]
      rfl
  · rw [Fabric.sequence, Core.content?_setInput connected, Fabric.content?, toldFeed]
    rfl

end Linking

/-- The pipeline that is built from loaded settings is a source and a tracker, linked and not yet started; nothing
was pushed yet. -/
theorem build_ok {settings : Settings} {fabric built : Fabric ω} {pipeline : Pipeline Builtin} (closed : fabric.Closed)
    (sound : settings.Sound) (done : settings.build Builtin.factory fabric = .ok (pipeline, built)) :
    ∃ source tracker frames drawn told,
      pipeline = ⟨[source, tracker], false⟩ ∧
      source.body = .inl ⟨SquareSource.ofSettings .standard⟩ ∧ source.isStarted = false ∧
      tracker.body = .inr BlobTracker.Body.standard ∧ tracker.isStarted = false ∧
      Linked settings source tracker frames drawn told built ∧ built.sequence told = 0 := by
  unfold build at done
  obtain ⟨⟨source, first⟩, begun, done⟩ := bind_eq_ok done
  obtain ⟨⟨tracker, second⟩, followed, done⟩ := bind_eq_ok done
  obtain ⟨alone, placed, done⟩ := bind_eq_ok done
  obtain ⟨both, placed', done⟩ := bind_eq_ok done
  have madeSource := (made_of_ok (Builtin.create_squares fabric) (Builtin.core_squares fabric) numeric_squares rfl
    begun).lock numeric_squares
  have madeTracker := (made_of_ok (Builtin.create_tracker first) (Builtin.core_tracker first) numeric_tracker rfl
    followed).lock numeric_tracker
  obtain ⟨rfl, -⟩ := Pipeline.add_ok (mapError_eq_ok placed)
  obtain ⟨rfl, -⟩ := Pipeline.add_ok (mapError_eq_ok placed')
  obtain ⟨producer, frames, index, target, core, sourced, fed, known, found, connected, rfl⟩ :=
    Pipeline.connect_ok (mapError_eq_ok done)
  have apart : (sourceId == trackerId) = false := by decide
  simp only [Pipeline.empty, List.nil_append, List.cons_append, Pipeline.stage?, Pipeline.indexOf?, List.find?_cons,
    List.findIdx?_cons, madeSource.named, madeTracker.named, apart, beq_self_eq_true, Option.some.injEq]
    at sourced known found
  cases sourced
  cases known
  cases found
  obtain rfl : frames = ⟨fabric.feeds.size⟩ := Option.some.inj (fed.symm.trans (madeSource.kept.2.2.2 0))
  obtain ⟨linked, unused⟩ := linked_of_made madeSource madeTracker closed sound connected
  refine ⟨_, _, _, _, _, rfl, madeSource.body, madeSource.kept.2.2.1, madeTracker.body, ?_, linked, unused⟩
  obtain ⟨-, -, same, -⟩ := Core.setInput_ok connected
  rw [Stage.isStarted, same]
  exact madeTracker.kept.2.2.1

end Config.Settings

end TouchTracking
