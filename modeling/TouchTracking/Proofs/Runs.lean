import TouchTracking.Tracking.Tracker

/-! Runs of a tracker: whatever its owner asks of it, in any order. A request that is refused changes
nothing. `Performed` says once what a request can do. -/
namespace TouchTracking.Tracker

open Raster (Image Mask)

inductive Action
  | process (image : Image)
  | update (candidates : List Blob) (width height : Nat)
  | setParams (params : TrackerParams)
  | clear

/-- The touches that are handed back, if the request is one for touches and is granted, and the
tracker after it. -/
def perform (tracker : Tracker) : Action → Option (List Touch) × Tracker
  | .process image => match tracker.process image with
    | .ok (touches, next) => (some touches, next)
    | .error _ => (none, tracker)
  | .update candidates width height =>
    let (touches, next) := tracker.update candidates width height
    (some touches, next)
  | .setParams params => match tracker.setParams params with
    | .ok next => (none, next)
    | .error _ => (none, tracker)
  | .clear => (none, tracker.clear)

def run (tracker : Tracker) : List Action → Tracker
  | [] => tracker
  | action :: actions => run (tracker.perform action).2 actions

inductive Fresh : Tracker → Prop
  | standard : Fresh standard
  | made {params : TrackerParams} {tracker : Tracker} :
      ofParams params = .ok tracker → Fresh tracker

/-- Everything that one request can do. -/
inductive Performed (tracker : Tracker) : Option (List Touch) → Tracker → Prop
  | refused : Performed tracker none tracker
  | configured (params : TrackerParams) (detector : Detector)
      (made : params.detector = .ok detector) :
      Performed tracker none { tracker with params, detector }
  | cleared : Performed tracker none tracker.clear
  | advanced (candidates : List Blob) (width height : Nat) :
      Performed tracker (some ((tracker.advance candidates).touches width height))
        (tracker.advance candidates)

theorem setParams_ok {tracker next : Tracker} {params : TrackerParams}
    (granted : tracker.setParams params = .ok next) :
    ∃ detector, params.detector = .ok detector ∧ next = { tracker with params, detector } := by
  unfold setParams at granted
  cases made : params.detector with
  | error => rw [made] at granted; cases granted
  | ok detector => rw [made] at granted; cases granted; exact ⟨detector, rfl, rfl⟩

theorem process_ok {tracker next : Tracker} {image : Image} {touches : List Touch}
    (granted : tracker.process image = .ok (touches, next)) :
    ∃ mask, Mask.ofImage image = .ok mask ∧
      next = tracker.advance (tracker.detector.detect mask) ∧
      touches = next.touches image.width image.height := by
  unfold process at granted
  split at granted
  next => cases granted
  next =>
    split at granted
    next => cases granted
    next mask masked => cases granted; exact ⟨mask, masked, rfl, rfl⟩

theorem performed (tracker : Tracker) (action : Action) :
    Performed tracker (tracker.perform action).1 (tracker.perform action).2 := by
  cases action with
  | process image =>
    cases processed : tracker.process image with
    | error => simp only [perform, processed]; exact .refused
    | ok result =>
      obtain ⟨mask, -, advanced, shown⟩ := process_ok processed
      simp only [perform, processed, shown, advanced]
      exact .advanced ..
  | update candidates width height => exact .advanced ..
  | setParams params =>
    cases configured : tracker.setParams params with
    | error => simp only [perform, configured]; exact .refused
    | ok next =>
      obtain ⟨detector, made, rfl⟩ := setParams_ok configured
      simp only [perform, configured]
      exact .configured params detector made
  | clear => exact .cleared

/-- What every request preserves holds after every run. -/
theorem run_invariant (property : Tracker → Prop)
    (preserved : ∀ tracker touches next, property tracker → Performed tracker touches next →
      property next)
    {tracker : Tracker} (initial : property tracker) (actions : List Action) :
    property (tracker.run actions) := by
  induction actions generalizing tracker with
  | nil => exact initial
  | cons action actions ih => exact ih (preserved _ _ _ initial (performed ..))

theorem run_append (tracker : Tracker) (first second : List Action) :
    tracker.run (first ++ second) = (tracker.run first).run second := by
  induction first generalizing tracker with
  | nil => rfl
  | cons action first ih => exact ih _

theorem Fresh.blank {tracker : Tracker} (fresh : Fresh tracker) :
    tracker.tracked = [] ∧ tracker.nextId = 1 := by
  cases fresh with
  | standard => exact ⟨rfl, rfl⟩
  | @made params _ granted =>
    unfold ofParams at granted
    cases made : params.detector with
    | error => rw [made] at granted; cases granted
    | ok detector => rw [made] at granted; cases granted; exact ⟨rfl, rfl⟩

end TouchTracking.Tracker
