import Mathlib.Data.List.Induction
import Mathlib.Data.Nat.Find
import TouchTracking.Proofs.Cascade

/-! Who is registered on a feed, told from everything that was asked of it. An observer is registered if it was added
after it was last removed, and what counts for its place is the first time that it was added since then. Observers are
told apart by what they are, whatever names they go by. -/
namespace TouchTracking.Feed

inductive Call (α : Type)
  | subscribe (observer : α)
  | unsubscribe (observer : α)
  | push (payload : Payload)

variable {α : Type}

/-- A push that is refused changes nothing. -/
def answer [DecidableEq α] (feed : Feed α) : Call α → Feed α
  | .subscribe observer => feed.subscribe observer
  | .unsubscribe observer => feed.unsubscribe observer
  | .push payload => match feed.push payload with
    | .ok next => next
    | .error _ => feed

def answerAll [DecidableEq α] (feed : Feed α) (history : List (Call α)) : Feed α := history.foldl answer feed

/-- The observer was added, and was not removed later. -/
def Listed (history : List (Call α)) (observer : α) : Prop :=
  ∃ place : Nat, history[place]? = some (.subscribe observer) ∧
    ∀ later : Nat, place < later → history[later]? ≠ some (.unsubscribe observer)

/-- The observer was added at a place of the history, for the first time since it was last removed. -/
structure Stands (history : List (Call α)) (observer : α) (place : Nat) : Prop where
  added : history[place]? = some (Call.subscribe observer)
  kept : ∀ later, place < later → history[later]? ≠ some (Call.unsubscribe observer)
  first : ∀ earlier, earlier < place → history[earlier]? = some (Call.subscribe observer) →
    ∃ between, earlier < between ∧ between < place ∧ history[between]? = some (Call.unsubscribe observer)

section History

variable {history : List (Call α)} {observer other : α} {place : Nat}

theorem Stands.listed (stands : Stands history observer place) : Listed history observer :=
  ⟨place, stands.added, stands.kept⟩

theorem Stands.lt_length (stands : Stands history observer place) : place < history.length :=
  (List.getElem?_eq_some_iff.mp stands.added).1

/-- An observer does not stand at two places: it would have been removed between them. -/
theorem Stands.not_lt {later : Nat} (stands : Stands history observer place) (stands' : Stands history observer later) :
    ¬ place < later := by
  intro before
  obtain ⟨between, after, -, removed⟩ := stands'.first place before stands.added
  exact stands.kept between after removed

theorem Stands.unique {later : Nat} (stands : Stands history observer place) (stands' : Stands history observer later) :
    place = later :=
  Nat.le_antisymm (Nat.not_lt.mp (stands'.not_lt stands)) (Nat.not_lt.mp (stands.not_lt stands'))

/-- Of the additions that were not undone, the earliest is the first one since the last removal. -/
theorem Listed.exists_stands (listed : Listed history observer) : ∃ place, Stands history observer place := by
  classical
  rw [Listed] at listed
  obtain ⟨added, kept⟩ := Nat.find_spec listed
  refine ⟨Nat.find listed, added, kept, fun earlier before present => ?_⟩
  have undone := Nat.find_min listed before
  simp only [present, true_and, not_forall, not_not] at undone
  obtain ⟨between, after, removed⟩ := undone
  refine ⟨between, after, ?_, removed⟩
  apply Nat.lt_of_not_le
  intro behind
  rcases Nat.eq_or_lt_of_le behind with rfl | behind
  · rw [added] at removed
    cases removed
  · exact kept between behind removed

variable {call : Call α}

theorem getElem?_behind {later : Nat} (behind : history.length < later) : (history ++ [call])[later]? = none :=
  List.getElem?_eq_none (by simp; omega)

/-- If the last call does not remove the observer, a removal is one from before. -/
theorem removed_before {later : Nat} (other : call ≠ .unsubscribe observer)
    (removed : (history ++ [call])[later]? = some (.unsubscribe observer)) :
    history[later]? = some (.unsubscribe observer) := by
  rcases Nat.lt_trichotomy later history.length with inside | rfl | behind
  · rwa [List.getElem?_append_left inside] at removed
  · exact absurd (by simpa using removed) other
  · rw [getElem?_behind behind] at removed
    cases removed

theorem listed_snoc : Listed (history ++ [call]) observer ↔
    call = .subscribe observer ∨ Listed history observer ∧ call ≠ .unsubscribe observer := by
  constructor
  · rintro ⟨place, added, kept⟩
    rcases Nat.lt_trichotomy place history.length with before | rfl | behind
    · rw [List.getElem?_append_left before] at added
      refine .inr ⟨⟨place, added, fun later after removed => ?_⟩, ?_⟩
      · have inside := (List.getElem?_eq_some_iff.mp removed).1
        apply kept later after
        rwa [List.getElem?_append_left inside]
      · rintro rfl
        apply kept history.length before
        simp
    · left
      simpa using added
    · rw [getElem?_behind behind] at added
      cases added
  · rintro (rfl | ⟨⟨place, added, kept⟩, other⟩)
    · refine ⟨history.length, by simp, fun later behind => ?_⟩
      simp [getElem?_behind behind]
    · have before := (List.getElem?_eq_some_iff.mp added).1
      refine ⟨place, by rwa [List.getElem?_append_left before], fun later after removed => ?_⟩
      exact kept later after (removed_before other removed)

theorem Stands.snoc (stands : Stands history observer place) (other : call ≠ .unsubscribe observer) :
    Stands (history ++ [call]) observer place where
  added := by rw [List.getElem?_append_left stands.lt_length, stands.added]
  kept later after removed := stands.kept later after (removed_before other removed)
  first earlier before present := by
    have inside := stands.lt_length
    rw [List.getElem?_append_left (by omega)] at present
    obtain ⟨between, after, early, removed⟩ := stands.first earlier before present
    exact ⟨between, after, early, by rw [List.getElem?_append_left (by omega), removed]⟩

/-- An observer that is not registered stands where it is added next. -/
theorem stands_of_not_listed (missing : ¬ Listed history observer) :
    Stands (history ++ [.subscribe observer]) observer history.length where
  added := by simp
  kept later behind := by simp [getElem?_behind behind]
  first earlier before present := by
    rw [List.getElem?_append_left before] at present
    have undone : ¬ ∀ later : Nat, earlier < later → history[later]? ≠ some (.unsubscribe observer) := fun kept =>
      missing ⟨earlier, present, kept⟩
    simp only [not_forall, not_not] at undone
    obtain ⟨between, after, removed⟩ := undone
    have inside := (List.getElem?_eq_some_iff.mp removed).1
    exact ⟨between, after, inside, by rw [List.getElem?_append_left inside, removed]⟩

def Precedes (history : List (Call α)) (one other : α) : Prop :=
  ∃ place later, Stands history one place ∧ Stands history other later ∧ place < later

theorem Precedes.snoc {one : α} (before : Precedes history one other) (keeps : call ≠ .unsubscribe one)
    (keeps' : call ≠ .unsubscribe other) : Precedes (history ++ [call]) one other := by
  obtain ⟨place, later, stands, stands', before⟩ := before
  exact ⟨place, later, stands.snoc keeps, stands'.snoc keeps', before⟩

theorem Precedes.irrefl (before : Precedes history observer observer) : False := by
  obtain ⟨place, later, stands, stands', before⟩ := before
  exact stands.not_lt stands' before

/-- A list holds the observers that a history leaves registered, in the order of their places. -/
structure Enrolled (history : List (Call α)) (observers : List α) : Prop where
  members : ∀ observer, observer ∈ observers ↔ Listed history observer
  ordered : observers.Pairwise (Precedes history)

theorem enrolled_nil : Enrolled ([] : List (Call α)) [] where
  members observer := by simp [Listed]
  ordered := .nil

/-- A list without repetitions is not asked for: no observer precedes itself. -/
theorem Enrolled.nodup {observers : List α} (enrolled : Enrolled history observers) : observers.Nodup := by
  refine enrolled.ordered.imp ?_
  rintro one _ before rfl
  exact before.irrefl

/-- What neither adds an observer nor removes one leaves the list as it is. -/
theorem Enrolled.keep {observers : List α} (enrolled : Enrolled history observers)
    (adds : ∀ observer, call = .subscribe observer → observer ∈ observers)
    (removes : ∀ observer ∈ observers, call ≠ .unsubscribe observer) :
    Enrolled (history ++ [call]) observers where
  members observer := by
    rw [listed_snoc, ← enrolled.members]
    constructor
    · exact fun member => .inr ⟨member, removes observer member⟩
    · rintro (added | ⟨member, -⟩)
      · exact adds observer added
      · exact member
  ordered := enrolled.ordered.imp_of_mem fun member member' before =>
    before.snoc (removes _ member) (removes _ member')

/-- An observer that was missing comes last: its place is that of the call itself. -/
theorem Enrolled.append {observers : List α} (enrolled : Enrolled history observers)
    (missing : observer ∉ observers) :
    Enrolled (history ++ [.subscribe observer]) (observers ++ [observer]) where
  members other := by
    rw [listed_snoc, ← enrolled.members, List.mem_append, List.mem_singleton]
    constructor
    · rintro (member | rfl)
      · exact .inr ⟨member, nofun⟩
      · exact .inl rfl
    · rintro (⟨⟨⟩⟩ | ⟨member, -⟩)
      · exact .inr rfl
      · exact .inl member
  ordered := by
    refine List.pairwise_append.mpr ⟨?_, List.pairwise_singleton .., fun one member other last => ?_⟩
    · exact enrolled.ordered.imp fun before => before.snoc nofun nofun
    · cases List.mem_singleton.mp last
      obtain ⟨place, stands⟩ := ((enrolled.members one).mp member).exists_stands
      have new := stands_of_not_listed (mt (enrolled.members observer).mpr missing)
      exact ⟨place, history.length, stands.snoc nofun, new, stands.lt_length⟩

/-- The others close ranks behind an observer that is removed. -/
theorem Enrolled.filter [DecidableEq α] {observers : List α} (enrolled : Enrolled history observers) (observer : α) :
    Enrolled (history ++ [.unsubscribe observer]) (observers.filter (· ≠ observer)) where
  members other := by
    rw [listed_snoc, ← enrolled.members, List.mem_filter, decide_eq_true_iff]
    constructor
    · rintro ⟨member, different⟩
      refine .inr ⟨member, ?_⟩
      rintro ⟨⟩
      exact different rfl
    · rintro (⟨⟨⟩⟩ | ⟨member, different⟩)
      refine ⟨member, ?_⟩
      rintro rfl
      exact different rfl
  ordered := by
    refine (enrolled.ordered.filter _).imp_of_mem fun {one other} left left' before => before.snoc ?_ ?_
    · rintro ⟨⟩
      simp at left
    · rintro ⟨⟩
      simp at left'

end History

variable [DecidableEq α] {feed : Feed α} {observer other : α}

theorem subscribe_of_mem (known : observer ∈ feed.observers) : feed.subscribe observer = feed := if_pos known

theorem observers_subscribe_of_not_mem (missing : observer ∉ feed.observers) :
    (feed.subscribe observer).observers = feed.observers ++ [observer] := by
  rw [subscribe, if_neg missing]

theorem unsubscribe_of_not_mem (missing : observer ∉ feed.observers) : feed.unsubscribe observer = feed := by
  have kept : feed.observers.filter (· ≠ observer) = feed.observers := by
    refine List.filter_eq_self.mpr fun other member => decide_eq_true ?_
    rintro rfl
    exact missing member
  rw [unsubscribe, kept]

theorem mem_unsubscribe :
    other ∈ (feed.unsubscribe observer).observers ↔ other ∈ feed.observers ∧ other ≠ observer := by
  simp [unsubscribe]

theorem mem_subscribe :
    other ∈ (feed.subscribe observer).observers ↔ other ∈ feed.observers ∨ other = observer := by
  by_cases known : observer ∈ feed.observers
  · rw [subscribe_of_mem known, or_iff_left_of_imp]
    rintro rfl
    exact known
  · rw [observers_subscribe_of_not_mem known, List.mem_append, List.mem_singleton]

theorem observers_answer_push (feed : Feed α) (payload : Payload) :
    (feed.answer (.push payload)).observers = feed.observers := by
  simp only [answer]
  split
  next next accepted => exact (push_ok accepted).2.2
  next => rfl

theorem Enrolled.answer {history : List (Call α)} (enrolled : Enrolled history feed.observers) (call : Call α) :
    Enrolled (history ++ [call]) (feed.answer call).observers := by
  cases call with
  | subscribe observer =>
    rw [Feed.answer]
    by_cases known : observer ∈ feed.observers
    · rw [subscribe_of_mem known]
      apply enrolled.keep
      · rintro _ ⟨⟩
        exact known
      · nofun
    · rw [observers_subscribe_of_not_mem known]
      exact enrolled.append known
  | unsubscribe observer => exact enrolled.filter observer
  | push payload =>
    rw [observers_answer_push]
    exact enrolled.keep nofun nofun

theorem answerAll_snoc (feed : Feed α) (history : List (Call α)) (call : Call α) :
    feed.answerAll (history ++ [call]) = (feed.answerAll history).answer call := by
  simp [answerAll]

theorem enrolled_answerAll (name : String) (format : Format) (history : List (Call α)) :
    Enrolled history ((empty name format).answerAll history).observers := by
  induction history using List.reverseRecOn with
  | nil => exact enrolled_nil
  | append_singleton history call ih =>
    rw [answerAll_snoc]
    exact ih.answer call

/-- The observers of a feed are those that its history left registered, and only their own calls count for them. -/
structure Registered (history : List (Call α)) (feed : Feed α) : Prop where
  distinct : feed.observers.Nodup
  members : ∀ observer, observer ∈ feed.observers ↔ Listed history observer
  placed : ∀ observer ∈ feed.observers, ∃! place, Stands history observer place
  ordered : feed.observers.Pairwise fun one other =>
    ∀ place later, Stands history one place → Stands history other later → place < later
  again : ∀ observer ∈ feed.observers, feed.subscribe observer = feed
  stranger : ∀ observer ∉ feed.observers, feed.unsubscribe observer = feed
  last : ∀ observer, ((feed.unsubscribe observer).subscribe observer).observers =
    feed.observers.filter (· ≠ observer) ++ [observer]
  /-- Whatever names they go by, one observer is neither merged with another one nor removed along with it. -/
  apart : ∀ one other, one ≠ other →
    (other ∈ (feed.subscribe one).observers ↔ other ∈ feed.observers) ∧
      (other ∈ (feed.unsubscribe one).observers ↔ other ∈ feed.observers)

/-- Whatever was asked of a feed, its list of observers is told by the history alone. -/
theorem registered_answerAll (name : String) (format : Format) (history : List (Call α)) :
    Registered history ((empty name format).answerAll history) := by
  have enrolled := enrolled_answerAll name format history
  generalize (empty name format).answerAll history = feed at enrolled
  constructor
  case distinct => exact enrolled.nodup
  case members => exact enrolled.members
  case placed =>
    intro observer member
    obtain ⟨place, stands⟩ := ((enrolled.members observer).mp member).exists_stands
    exact ⟨place, stands, fun _ stands' => stands'.unique stands⟩
  case ordered =>
    -- Each of the two stands at one place only, so that the places at hand are the ones compared.
    refine enrolled.ordered.imp fun ⟨_, _, stands, stands', before⟩ place later => ?_
    intro here there
    cases stands.unique here
    cases stands'.unique there
    exact before
  case again => exact fun observer => subscribe_of_mem
  case stranger => exact fun observer => unsubscribe_of_not_mem
  case last =>
    intro observer
    have gone : observer ∉ (feed.unsubscribe observer).observers := by simp [mem_unsubscribe]
    exact observers_subscribe_of_not_mem gone
  case apart =>
    intro one other different
    simp [mem_subscribe, mem_unsubscribe, different.symm]

/-- Two observers of one name: the one that is removed and added again comes last, and the other one keeps its place. -/
example : ((empty "frames" .image).answerAll
    [.subscribe (1, "view"), .subscribe (2, "view"), .subscribe (1, "view"), .unsubscribe (3, "view"),
      .unsubscribe (1, "view"), .subscribe (1, "view")]).observers = [(2, "view"), (1, "view")] := by
  decide

end TouchTracking.Feed
