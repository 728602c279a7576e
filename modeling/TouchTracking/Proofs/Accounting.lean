import TouchTracking.Proofs.Lines

/-! What becomes of every payload of a followed feed of touches. Whatever is pushed and whenever the follower
looks, each payload accepted since it began is delivered, passed over, or still to come, and its two counters
say how many there are of the first two kinds. -/
namespace TouchTracking

/-- A feed and somebody who follows it. -/
structure Watch (α : Type) where
  feed : Feed α
  follower : Follower

namespace Watch

inductive Step (α : Type)
  | push (payload : Payload)
  | subscribe (observer : α)
  | unsubscribe (observer : α)
  | look

variable {α : Type} [DecidableEq α]

/-- A push that is refused changes nothing. -/
def act (watch : Watch α) : Step α → Watch α
  | .push payload => match watch.feed.push payload with
    | .ok feed => { watch with feed }
    | .error _ => watch
  | .subscribe observer => { watch with feed := watch.feed.subscribe observer }
  | .unsubscribe observer => { watch with feed := watch.feed.unsubscribe observer }
  | .look => { watch with follower := (watch.follower.next watch.feed).2 }

def run (watch : Watch α) : List (Step α) → Watch α
  | [] => watch
  | step :: steps => run (watch.act step) steps

def fresh (name : String) : Watch α := ⟨Feed.empty name .touch, Follower.startingAt 0⟩

/-- A follower that has seen the payloads up to a number takes over. -/
def handOver (watch : Watch α) (seen : Nat) : Watch α := ⟨watch.feed, Follower.startingAt seen⟩

/-- What a look brings: the number of the payload in the slot, and the line for it. -/
def delivered (watch : Watch α) : Step α → List (Nat × String)
  | .look => ((watch.follower.next watch.feed).1.map (watch.feed.sequence, ·)).toList
  | _ => []

/-- The numbers that a step takes the follower past. -/
def passed (watch : Watch α) (step : Step α) : List Nat :=
  List.range' (watch.follower.seen + 1) ((watch.act step).follower.seen - watch.follower.seen)

/-- The numbers that a step takes the follower past without a line. -/
def missed (watch : Watch α) (step : Step α) : List Nat :=
  (watch.passed step).filter fun number => number ∉ (watch.delivered step).map Prod.fst

def deliveries (watch : Watch α) : List (Step α) → List (Nat × String)
  | [] => []
  | step :: steps => watch.delivered step ++ deliveries (watch.act step) steps

def misses (watch : Watch α) : List (Step α) → List Nat
  | [] => []
  | step :: steps => watch.missed step ++ misses (watch.act step) steps

def pending (watch : Watch α) : List Nat :=
  List.range' (watch.follower.seen + 1) (watch.feed.sequence - watch.follower.seen)

def acceptedIn : Step α → List Payload
  | .push payload => if payload.format = .touch then [payload] else []
  | _ => []

/-- The payloads that a feed of touches accepts, in order: the one numbered `n` stands at `n - 1`. -/
def accepted (steps : List (Step α)) : List Payload := steps.flatMap acceptedIn

/-- The feed of touches has accepted the given payloads, and the follower is not ahead of it. -/
structure Holds (past : List Payload) (watch : Watch α) : Prop where
  format : watch.feed.format = .touch
  count : watch.feed.sequence = past.length
  slot : watch.feed.slot = past.getLast?
  touches : ∀ payload ∈ past, payload.format = .touch
  behind : watch.follower.seen ≤ watch.feed.sequence

/-- Everything that a step can do: the follower looks on, or it goes on to the newest payload. -/
inductive Stepped (past : List Payload) (watch : Watch α) (step : Step α) : Watch α → Prop
  | quiet (feed : Feed α) (held : Holds (past ++ acceptedIn step) ⟨feed, watch.follower⟩)
      (nothing : watch.delivered step = []) : Stepped past watch step ⟨feed, watch.follower⟩
  | caughtUp (touches : List Touch) (none : acceptedIn step = [])
      (new : watch.follower.seen < watch.feed.sequence)
      (newest : past.getLast? = some (.touches touches))
      (line : watch.delivered step = [(watch.feed.sequence, Touch.line touches)]) :
      Stepped past watch step ⟨watch.feed, watch.feed.sequence, watch.follower.frames + 1,
        watch.follower.skipped + (watch.feed.sequence - watch.follower.seen - 1)⟩

theorem touches_of_format {payload : Payload} (format : payload.format = .touch) :
    ∃ touches, payload = .touches touches := by
  cases payload with
  | image => cases format
  | touches list => exact ⟨list, rfl⟩

theorem range'_cut {low middle high : Nat} (below : low ≤ middle) (above : middle ≤ high) :
    List.range' (low + 1) (high - low) =
      List.range' (low + 1) (middle - low) ++ List.range' (middle + 1) (high - middle) := by
  have start : middle + 1 = low + 1 + 1 * (middle - low) := by omega
  rw [start, List.range'_append]
  congr 1
  omega

omit [DecidableEq α] in
/-- A look goes on to the newest payload if that is new, and does nothing otherwise. -/
theorem next_spec {past : List Payload} {watch : Watch α} (holds : Holds past watch) :
    watch.feed.sequence ≤ watch.follower.seen ∧
      watch.follower.next watch.feed = (none, watch.follower) ∨
    watch.follower.seen < watch.feed.sequence ∧ ∃ touches,
      past.getLast? = some (.touches touches) ∧
      watch.follower.next watch.feed = (some (Touch.line touches),
        ⟨watch.feed.sequence, watch.follower.frames + 1,
          watch.follower.skipped + (watch.feed.sequence - watch.follower.seen - 1)⟩) := by
  by_cases old : watch.feed.sequence ≤ watch.follower.seen
  · exact .inl ⟨old, by rw [Follower.next, if_pos old]⟩
  · have new : watch.follower.seen < watch.feed.sequence := Nat.lt_of_not_le old
    have some_ : past ≠ [] := by
      rintro rfl
      have := holds.count
      simp at this
      omega
    have last := List.getLast?_eq_some_getLast some_
    obtain ⟨touches, same⟩ := touches_of_format (holds.touches _ (List.getLast_mem some_))
    rw [same] at last
    refine .inr ⟨new, touches, last, ?_⟩
    rw [Follower.next, if_neg old, holds.slot, last]
    rfl

theorem stepped {past : List Payload} {watch : Watch α} (holds : Holds past watch) (step : Step α) :
    Stepped past watch step (watch.act step) := by
  have unchanged : Holds (past ++ []) watch := by rwa [List.append_nil]
  cases step with
  | push payload =>
    simp only [act, Feed.push, holds.format]
    by_cases touch : payload.format = .touch
    · rw [if_pos touch]
      refine .quiet _ ⟨rfl, ?_, ?_, ?_, Nat.le_succ_of_le holds.behind⟩ rfl
      · simp [acceptedIn, touch, holds.count]
      · simp [acceptedIn, touch]
      · simpa [acceptedIn, touch, or_imp, forall_and] using holds.touches
    · rw [if_neg touch]
      exact .quiet watch.feed (by rwa [acceptedIn, if_neg touch]) rfl
  | subscribe observer =>
    refine .quiet _ ?_ rfl
    unfold Feed.subscribe
    split
    · exact unchanged
    · exact ⟨unchanged.format, unchanged.count, unchanged.slot, unchanged.touches, unchanged.behind⟩
  | unsubscribe observer =>
    exact .quiet _ ⟨unchanged.format, unchanged.count, unchanged.slot, unchanged.touches,
      unchanged.behind⟩ rfl
  | look =>
    rcases next_spec holds with ⟨-, idle⟩ | ⟨new, touches, last, caught⟩
    · simp only [act, idle]
      exact .quiet watch.feed unchanged (by simp [delivered, idle])
    · simp only [act, caught]
      exact .caughtUp touches rfl new last (by simp [delivered, caught])

omit [DecidableEq α] in
theorem stepped_holds {past : List Payload} {watch next : Watch α} {step : Step α}
    (holds : Holds past watch) (stepped : Stepped past watch step next) :
    Holds (past ++ acceptedIn step) next ∧ watch.follower.seen ≤ next.follower.seen := by
  cases stepped with
  | quiet feed held => exact ⟨held, Nat.le_refl _⟩
  | caughtUp touches none new =>
    rw [none, List.append_nil]
    exact ⟨⟨holds.format, holds.count, holds.slot, holds.touches, Nat.le_refl _⟩, Nat.le_of_lt new⟩

theorem stepped_counts {past : List Payload} {watch next : Watch α} {step : Step α}
    (stepped : Stepped past watch step next) (result : watch.act step = next) :
    ((watch.delivered step).map Prod.fst ++ watch.missed step).Perm (watch.passed step) ∧
    next.follower.frames = watch.follower.frames + (watch.delivered step).length ∧
    next.follower.skipped = watch.follower.skipped + (watch.missed step).length := by
  unfold missed passed
  rw [result]
  cases stepped with
  | quiet feed held nothing => simp [nothing]
  | caughtUp touches none new newest line =>
    -- All numbers that are passed but the last one are missed.
    have split : List.range' (watch.follower.seen + 1) (watch.feed.sequence - watch.follower.seen) =
        List.range' (watch.follower.seen + 1) (watch.feed.sequence - watch.follower.seen - 1) ++
          [watch.feed.sequence] := by
      have size : watch.feed.sequence - watch.follower.seen =
          (watch.feed.sequence - watch.follower.seen - 1) + 1 := by omega
      rw [size, List.range'_1_concat]
      congr 2
      omega
    have kept : (List.range' (watch.follower.seen + 1)
          (watch.feed.sequence - watch.follower.seen - 1)).filter (· ≠ watch.feed.sequence) =
        List.range' (watch.follower.seen + 1) (watch.feed.sequence - watch.follower.seen - 1) := by
      refine List.filter_eq_self.mpr fun number member => decide_eq_true ?_
      have := (List.mem_range'_1.mp member).2
      omega
    simp only [line, List.map_cons, List.map_nil, List.mem_singleton, split, List.filter_append, kept]
    simpa using List.perm_append_singleton .. |>.symm

theorem run_holds {past : List Payload} {watch : Watch α} (holds : Holds past watch)
    (steps : List (Step α)) :
    Holds (past ++ accepted steps) (watch.run steps) ∧
    watch.follower.seen ≤ (watch.run steps).follower.seen := by
  induction steps generalizing past watch with
  | nil => exact ⟨by rwa [accepted, List.flatMap_nil, List.append_nil], Nat.le_refl _⟩
  | cons step steps ih =>
    obtain ⟨next, first⟩ := stepped_holds holds (stepped holds step)
    obtain ⟨final, rest⟩ := ih next
    rw [List.append_assoc] at final
    exact ⟨final, Nat.le_trans first rest⟩

/-- The numbers that a run takes the follower past are delivered or missed, and counted as such. -/
theorem run_counts {past : List Payload} {watch : Watch α} (holds : Holds past watch)
    (steps : List (Step α)) :
    ((watch.deliveries steps).map Prod.fst ++ watch.misses steps).Perm
      (List.range' (watch.follower.seen + 1)
        ((watch.run steps).follower.seen - watch.follower.seen)) ∧
    (watch.run steps).follower.frames = watch.follower.frames + (watch.deliveries steps).length ∧
    (watch.run steps).follower.skipped = watch.follower.skipped + (watch.misses steps).length := by
  induction steps generalizing past watch with
  | nil => simp [deliveries, misses, run]
  | cons step steps ih =>
    have does := stepped holds step
    obtain ⟨parts, frames, skipped⟩ := stepped_counts does rfl
    obtain ⟨next, first⟩ := stepped_holds holds does
    obtain ⟨parts', frames', skipped'⟩ := ih next
    have rest := (run_holds next steps).2
    refine ⟨?_, ?_, ?_⟩
    · rw [run, range'_cut first rest]
      simp only [deliveries, misses, List.map_append]
      refine List.Perm.trans ?_ (parts.append parts')
      simp only [List.append_assoc]
      exact (List.perm_append_comm_assoc ..).append_left _
    · rw [deliveries, List.length_append, run]
      omega
    · rw [misses, List.length_append, run]
      omega

/-- A delivery of a run is numbered above what was seen before it and not above what is seen after. -/
theorem deliveries_between {past : List Payload} {watch : Watch α} (holds : Holds past watch)
    {steps : List (Step α)} {number : Nat}
    (member : number ∈ (watch.deliveries steps).map Prod.fst) :
    watch.follower.seen < number ∧ number ≤ (watch.run steps).follower.seen := by
  have inside := (run_counts holds steps).1.subset (List.mem_append_left _ member)
  have := List.mem_range'_1.mp inside
  omega

theorem deliveries_ordered {past : List Payload} {watch : Watch α} (holds : Holds past watch)
    (steps : List (Step α)) : ((watch.deliveries steps).map Prod.fst).Pairwise (· < ·) := by
  induction steps generalizing past watch with
  | nil => exact .nil
  | cons step steps ih =>
    have does := stepped holds step
    obtain ⟨next, -⟩ := stepped_holds holds does
    have later {number : Nat} (member : number ∈ ((watch.act step).deliveries steps).map Prod.fst) :=
      (deliveries_between next member).1
    rw [deliveries, List.map_append]
    generalize watch.act step = after at does ih next later
    cases does with
    | quiet feed held nothing =>
      rw [nothing]
      exact ih next
    | caughtUp touches _ _ _ line =>
      rw [line]
      exact .cons (fun number member => later member) (ih next)

theorem deliveries_lines {past : List Payload} {watch : Watch α} (holds : Holds past watch)
    (steps : List (Step α)) : ∀ delivery ∈ watch.deliveries steps, ∃ touches,
      (past ++ accepted steps)[delivery.1 - 1]? = some (.touches touches) ∧
      delivery.2 = Touch.line touches := by
  induction steps generalizing past watch with
  | nil => simp [deliveries]
  | cons step steps ih =>
    intro delivery member
    have does := stepped holds step
    have rest := ih (stepped_holds holds does).1
    rw [List.append_assoc] at rest
    rw [deliveries, List.mem_append] at member
    generalize watch.act step = after at does rest member
    rcases member with now | later
    · cases does with
      | quiet feed held nothing => simp [nothing] at now
      | caughtUp touches none new newest line =>
        obtain rfl : delivery = (watch.feed.sequence, Touch.line touches) := by simpa [line] using now
        have inside : past.length - 1 < past.length := by
          have := holds.count
          omega
        refine ⟨touches, ?_, rfl⟩
        rw [holds.count, List.getElem?_append_left inside, ← List.getLast?_eq_getElem?, newest]
    · exact rest delivery later

omit [DecidableEq α] in
theorem fresh_holds (name : String) : Holds [] (fresh name : Watch α) :=
  ⟨rfl, rfl, rfl, by simp, Nat.le_refl _⟩

/-- A follower takes over a feed of touches at any number that the feed has reached. At every moment of
what happens then, it is not ahead of the feed, and the payloads accepted above that number are those
delivered, those missed and those pending, of which it has counted the first two. Deliveries come in
the order of their numbers and with the line for the payload of that number. A look delivers exactly
if the feed is ahead, the line is for the newest payload, and no more is subtracted than there is. A line has
the records of its payload in their order, and none but payloads that are written alike have the same line. -/
theorem payloads_accounted (name : String) (earlier steps : List (Step α)) (seen : Nat)
    (reached : seen ≤ ((fresh name : Watch α).run earlier).feed.sequence) :
    let start := ((fresh name : Watch α).run earlier).handOver seen
    let now := start.run steps
    let payloads := accepted (earlier ++ steps)
    let numbers := (start.deliveries steps).map Prod.fst
    (payloads.length = now.feed.sequence ∧ seen ≤ now.follower.seen ∧
      now.follower.seen ≤ now.feed.sequence ∧
      now.follower.frames + now.follower.skipped = now.follower.seen - seen) ∧
    ((numbers ++ start.misses steps ++ now.pending).Perm
        (List.range' (seen + 1) (now.feed.sequence - seen)) ∧
      now.follower.frames = numbers.length ∧
      now.follower.skipped = (start.misses steps).length) ∧
    (numbers.Pairwise (· < ·) ∧ ∀ delivery ∈ start.deliveries steps, ∃ touches,
      payloads[delivery.1 - 1]? = some (.touches touches) ∧ delivery.2 = Touch.line touches) ∧
    ((now.follower.next now.feed).1.isSome ↔ now.follower.seen < now.feed.sequence) ∧
    (∀ line, (now.follower.next now.feed).1 = some line → ∃ touches,
      payloads.getLast? = some (.touches touches) ∧ line = Touch.line touches) ∧
    (now.follower.seen < now.feed.sequence →
      (now.follower.next now.feed).2.skipped + now.follower.seen + 1 =
        now.follower.skipped + now.feed.sequence) ∧
    ((∀ touches, Touch.line touches = "[" ++ ",".intercalate (touches.map Touch.record) ++ "]") ∧
      (∀ touches others, Touch.line touches = Touch.line others → List.Forall₂ Touch.Alike touches others) ∧
      ∀ touches others, (∀ touch ∈ touches, touch.Finite) → Touch.line touches = Touch.line others →
        touches = others) := by
  intro start now payloads numbers
  obtain ⟨before, -⟩ := run_holds (fresh_holds name) earlier
  have begun : Holds (accepted earlier) start := { before with behind := reached }
  obtain ⟨holds, onward⟩ := run_holds begun steps
  obtain ⟨parts, frames, skipped⟩ := run_counts begun steps
  have all : payloads = accepted earlier ++ accepted steps := List.flatMap_append
  have onward : seen ≤ now.follower.seen := onward
  have behind : now.follower.seen ≤ now.feed.sequence := holds.behind
  have frames : now.follower.frames = numbers.length := by
    rw [List.length_map]
    exact frames.trans (Nat.zero_add _)
  have skipped : now.follower.skipped = (start.misses steps).length := skipped.trans (Nat.zero_add _)
  have total : numbers.length + (start.misses steps).length = now.follower.seen - seen := by
    rw [← List.length_append, parts.length_eq, List.length_range']
    rfl
  have encoded : (∀ touches, Touch.line touches = "[" ++ ",".intercalate (touches.map Touch.record) ++ "]") ∧
      (∀ touches others, Touch.line touches = Touch.line others → List.Forall₂ Touch.Alike touches others) ∧
      ∀ touches others, (∀ touch ∈ touches, touch.Finite) → Touch.line touches = Touch.line others →
        touches = others :=
    ⟨Touch.line_eq, fun _ _ => Touch.alike_of_line, fun _ _ => Touch.line_injective⟩
  refine ⟨⟨?_, onward, behind, by omega⟩, ⟨?_, frames, skipped⟩, ⟨deliveries_ordered begun steps, ?_⟩, ?_⟩
  · rw [all]
    exact holds.count.symm
  · rw [range'_cut onward behind]
    exact parts.append_right _
  · rw [all]
    exact deliveries_lines begun steps
  · have current : Holds _ now := holds
    rcases next_spec current with ⟨old, idle⟩ | ⟨new, touches, newest, caught⟩
    · rw [idle]
      exact ⟨by simp [old], nofun, fun new => by omega, encoded⟩
    · rw [caught, all]
      refine ⟨by simp [new], fun line same => ⟨touches, newest, ?_⟩, fun _ => ?_, encoded⟩
      · exact (Option.some.inj same).symm
      · simp only
        omega

/-- A touch in the middle of the frame, and one in a corner. -/
def pair : List Touch := [⟨2, ⟨0x3f000000⟩, ⟨0x3e99999a⟩, 10, 12⟩, ⟨7, Binary.Single.one, Binary.Single.zero, 1, 1⟩]

/-- A picture is refused, two payloads come in a burst, and one more after each look at something new. -/
def burst : List (Step Nat) :=
  [.push (.image (.blank 1 1 1)), .push (.touches []), .subscribe 4, .push (.touches pair), .look, .look,
    .push (.touches []), .look, .push (.touches pair)]

theorem payloads_accounted_burst :
    let start := ((fresh "touches" : Watch Nat).run [.push (.touches [])]).handOver 1
    let now := start.run burst
    1 ≤ start.feed.sequence ∧
    start.deliveries burst =
      [(3, "[\x7b\"type\":\"touch\",\"id\":2,\"x\":0.5,\"y\":0.3,\"w\":10,\"h\":12\x7d,\x7b\"type\":\"touch\"," ++
        "\"id\":7,\"x\":1.0,\"y\":0.0,\"w\":1,\"h\":1\x7d]"), (4, "[]")] ∧
    start.misses burst = [2] ∧ now.pending = [5] ∧
    [3, 4, 2, 5].Perm (List.range' 2 4) ∧
    now.follower.frames + now.follower.skipped = 3 ∧ (now.follower.next now.feed).1.isSome ∧
    (∀ touches, Touch.line pair = Touch.line touches → pair = touches) := by
  have reached : 1 ≤ ((fresh "touches" : Watch Nat).run [.push (.touches [])]).feed.sequence := by
    decide +kernel
  have finite : ∀ touch ∈ pair, touch.Finite := by
    intro touch member
    simp only [pair, List.mem_cons, List.not_mem_nil, or_false] at member
    rcases member with rfl | rfl <;> constructor <;> decide +kernel
  obtain ⟨⟨-, -, -, total⟩, ⟨parts, -, -⟩, -, ahead, -, -, -, -, apart⟩ :=
    payloads_accounted "touches" [.push (.touches [])] burst 1 reached
  exact ⟨reached, by decide +kernel, by decide +kernel, by decide +kernel, parts, total,
    ahead.mpr (by decide +kernel), fun touches => apart pair touches finite⟩

end Watch

end TouchTracking
