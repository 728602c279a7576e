import TouchTracking.Proofs.Footage
import TouchTracking.Proofs.Loading
import TouchTracking.Stage.Source

/-! The life of a source of squares, which may be opened and released at any time. To open it with properties that fit
together is to start over: whatever came before, all that is seen from then on is what a new source would show. To
open it with properties that do not is to leave it as it was, with the frames it is about to give. -/
namespace TouchTracking

open Raster (Image)

namespace SquareSource

inductive Deed
  | opening (bag : PropertyBag)
  | capture
  | release

/-- The answer to a deed, with the frame if it gives one, and the source after it. -/
def act (source : SquareSource) : Deed → Except Failure (Option Image) × SquareSource
  | .opening bag =>
    let (answer, next, ()) := Camera.openWith source bag ()
    (answer.map fun () => none, next)
  | .capture =>
    let (answer, next, ()) := Camera.capture source ()
    (answer, next)
  | .release => (.ok none, (Camera.release source ()).1)

def run (source : SquareSource) (deeds : List Deed) : SquareSource :=
  deeds.foldl (fun source deed => (source.act deed).2) source

/-- What is seen of a source when something is done to it. -/
structure Glimpse where
  answer : Except Failure (Option Image)
  settings : SquareSettings
  isOpen : Bool
  captured : Nat

def glimpse (answer : Except Failure (Option Image)) (source : SquareSource) : Glimpse :=
  ⟨answer, source.settings, source.isOpen, source.captured⟩

def glimpses (source : SquareSource) : List Deed → List Glimpse
  | [] => []
  | deed :: deeds => (source.act deed).2.glimpse (source.act deed).1 :: (source.act deed).2.glimpses deeds

/-- The attempt to open a source with properties that do not fit together. -/
def Deed.isRefused : Deed → Bool
  | .opening bag => (SquareSettings.ofProperties bag).validate != .ok ()
  | .capture | .release => false

section Opening

variable {bag : PropertyBag}

/-- What there was before plays no part. -/
theorem act_opening (source : SquareSource) (valid : (SquareSettings.ofProperties bag).validate = .ok ()) :
    source.act (.opening bag) =
      (.ok none, begin (.ofProperties bag) (.ofSeed (SquareSettings.ofProperties bag).seed)) := by
  simp only [act, Camera.openWith, openWith, valid]
  rfl

theorem act_refused (source : SquareSource) {error : SquareSettings.SettingsError}
    (invalid : (SquareSettings.ofProperties bag).validate = .error error) :
    source.act (.opening bag) = (.error error.failure, source) := by
  simp only [act, Camera.openWith, openWith, invalid]
  rfl

theorem act_of_isRefused (source : SquareSource) {deed : Deed} (refused : deed.isRefused = true) :
    (source.act deed).2 = source := by
  cases deed with
  | opening bag =>
    cases validity : (SquareSettings.ofProperties bag).validate with
    | ok =>
      rw [Deed.isRefused, validity] at refused
      cases refused
    | error => rw [act_refused source validity]
  | capture | release => cases refused

end Opening

/-- Refused openings can be left out of any history: what is seen at all other deeds is the same without them. -/
theorem glimpses_without_refusals (source : SquareSource) (deeds : List Deed) :
    ((deeds.zip (source.glimpses deeds)).filter fun seen => !seen.1.isRefused).map Prod.snd =
      source.glimpses (deeds.filter fun deed => !deed.isRefused) := by
  induction deeds generalizing source with
  | nil => rfl
  | cons deed deeds ih =>
    rw [glimpses, List.zip_cons_cons]
    cases refused : deed.isRefused with
    | true =>
      rw [List.filter_cons_of_neg (by simp [refused]), List.filter_cons_of_neg (by simp [refused]), ih,
        act_of_isRefused source refused]
    | false =>
      rw [List.filter_cons_of_pos (by simp [refused]), List.filter_cons_of_pos (by simp [refused]), List.map_cons, ih,
        glimpses]

theorem capture_ok {source next : SquareSource} {image : Image} (captured : source.capture = .ok (image, next)) :
    next.settings = source.settings ∧ next.isOpen = true ∧ next.captured = source.captured + 1 := by
  unfold capture at captured
  split at captured
  next => cases captured
  next draws _ =>
    cases captured
    exact ⟨rfl, rfl, rfl⟩

/-- Frames that are captured one after the other are counted one by one. -/
theorem glimpses_film {source : SquareSource} {frames : Nat} {shots : List Shot}
    (filmed : source.film frames = some shots) :
    source.glimpses (List.replicate frames .capture) =
      (shots.map Shot.image).mapIdx fun index image =>
        ⟨.ok (some image), source.settings, true, source.captured + (index + 1)⟩ := by
  induction frames generalizing source shots with
  | zero =>
    cases filmed
    rfl
  | succ frames ih =>
    simp only [film, Option.bind_eq_bind, Option.bind_eq_some_iff, Option.some.injEq] at filmed
    obtain ⟨⟨image, next⟩, captured, rest, later, rfl⟩ := filmed
    have first := eq_ok_of_toOption captured
    obtain ⟨settings, isOpen, counted⟩ := capture_ok first
    have acted : source.act .capture = (.ok (some image), next) := by
      simp only [act, Camera.capture, first]
    rw [List.replicate_succ, glimpses, acted, ih later, List.map_cons, List.mapIdx_cons, glimpse, settings, isOpen,
      counted]
    simp only [Nat.add_assoc, Nat.add_comm 1]

/-- Whatever has been done to a source before, an opening succeeds on it as on a new one, and nothing that is seen from
then on tells the two apart: there are as many frames as are asked for, counted from the first. If the opening fails,
all that is seen from then on is what would have been seen without it. -/
theorem opening_replays_or_leaves (settings : SquareSettings) (past : List Deed) (bag : PropertyBag) :
    let source := (ofSettings settings).run past
    let opened := source.act (.opening bag)
    (opened.1 = .ok none ∧
      (∀ settings' future, source.glimpses (.opening bag :: future) =
        (ofSettings settings').glimpses (.opening bag :: future)) ∧
      ∀ count, ∃ frames : List Image, frames.length = count ∧
        opened.2.glimpses (List.replicate count .capture) =
          frames.mapIdx fun index image => ⟨.ok (some image), .ofProperties bag, true, index + 1⟩) ∨
    ∃ failure, opened.1 = .error failure ∧
      (∀ settings', ((ofSettings settings').act (.opening bag)).1 = .error failure) ∧
      ∀ future,
        source.glimpses (.opening bag :: future) = source.glimpse (.error failure) :: source.glimpses future := by
  intro source opened
  cases validity : (SquareSettings.ofProperties bag).validate with
  | ok =>
    left
    have begun : opened = _ := act_opening source validity
    refine ⟨by rw [begun], fun settings' future => ?_, fun count => ?_⟩
    · rw [glimpses, glimpses, act_opening source validity, act_opening _ validity]
    · obtain ⟨shots, filmed, length, -⟩ := Films.of_opened (.onWords (.ofSeed _) validity) count
      refine ⟨shots.map Shot.image, by rw [List.length_map, length], ?_⟩
      rw [begun, glimpses_film filmed]
      simp only [begin, Nat.zero_add]
  | error error =>
    right
    have refused : opened = _ := act_refused source validity
    exact ⟨error.failure, by rw [refused], fun settings' => by rw [act_refused _ validity],
      fun future => by rw [glimpses, act_refused source validity]⟩

/-- Properties whose squares are higher than the frame. -/
def overgrown : SquareSettings := { cramped with size := 6 }

/-- Both come about on a source that is open already and has given a frame. -/
theorem opening_replays_or_leaves_midway :
    let source := (ofSettings .standard).run [.opening (.ofList cramped.properties), .capture]
    (∀ future, source.glimpses (.opening (.ofList cramped.properties) :: future) =
      (ofSettings overgrown).glimpses (.opening (.ofList cramped.properties) :: future)) ∧
    ∀ future, source.glimpses (.opening (.ofList overgrown.properties) :: future) =
      source.glimpse (.error (SquareSettings.SettingsError.tooLarge 6 12 5).failure) :: source.glimpses future := by
  intro source
  have fits : (SquareSettings.ofProperties (.ofList cramped.properties)).validate = .ok () := by decide +kernel
  have misfits : (SquareSettings.ofProperties (.ofList overgrown.properties)).validate = .error (.tooLarge 6 12 5) := by
    decide +kernel
  have outcome := opening_replays_or_leaves .standard [.opening (.ofList cramped.properties), .capture]
  constructor
  · rcases outcome (.ofList cramped.properties) with ⟨-, replays, -⟩ | ⟨failure, refused, -⟩
    · exact replays overgrown
    · rw [act_opening _ fits] at refused
      cases refused
  · rcases outcome (.ofList overgrown.properties) with ⟨accepted, -, -⟩ | ⟨failure, refused, -, leaves⟩
    · rw [act_refused _ misfits] at accepted
      cases accepted
    · rw [act_refused _ misfits] at refused
      cases refused
      exact leaves

end SquareSource

end TouchTracking
