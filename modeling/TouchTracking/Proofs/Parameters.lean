import TouchTracking.Proofs.Extents
import TouchTracking.Proofs.Runs

/-! The parameters that a tracker works with. In every reachable state its detector has the limits of its
parameters, and only a request for other parameters changes the two. The limits are words without a sign, but
the size tests read them with one: below half of the range both readings agree, and from there on the upper
limit is negative, so that no box passes. -/
namespace TouchTracking

open Raster (Mask)

def Blob.Between (smallest largest : Nat) (blob : Blob) : Prop :=
  (smallest ≤ blob.width ∧ blob.width ≤ largest) ∧ smallest ≤ blob.height ∧ blob.height ≤ largest

instance (smallest largest : Nat) (blob : Blob) : Decidable (blob.Between smallest largest) :=
  inferInstanceAs (Decidable ((_ ∧ _) ∧ _ ∧ _))

theorem signed32_neg {size : Nat} (large : 2 ^ 31 ≤ size) (word : size < 2 ^ 32) : signed32 size < 0 :=
  (Int.bmod_neg_iff (by omega) (by omega)).mpr (.inr (by omega))

namespace Blob

/-- Limits without a sign bit mean the same with and without a sign. -/
theorem fits_signed32 {smallest largest : Nat} (low : smallest < 2 ^ 31) (high : largest < 2 ^ 31) (blob : Blob) :
    blob.fits (signed32 smallest) (signed32 largest) = decide (blob.Between smallest largest) := by
  rw [signed32_of_lt low, signed32_of_lt high, fits, Bool.eq_iff_iff]
  simp [Between, and_assoc]

/-- An upper limit with a sign bit excludes every box that has a pixel. -/
theorem fits_signed32_of_ge {largest : Nat} (large : 2 ^ 31 ≤ largest) (word : largest < 2 ^ 32)
    (smallest : Int) {blob : Blob} (positive : 1 ≤ blob.width) :
    blob.fits smallest (signed32 largest) = false := by
  have negative := signed32_neg large word
  rw [Bool.eq_false_iff]
  simp only [fits, ne_eq, Bool.and_eq_true, decide_eq_true_eq]
  omega

end Blob

namespace Detector

theorem ofSizes_ok {minSize maxSize : Nat} {detector : Detector}
    (made : ofSizes minSize maxSize = .ok detector) :
    detector.minSize = minSize ∧ detector.maxSize = maxSize := by
  unfold ofSizes at made
  split at made
  next => cases made
  next =>
    split at made
    next => cases made
    next =>
      cases made
      exact ⟨rfl, rfl⟩

variable {detector : Detector} {mask : Mask}

/-- A measured box is at least one pixel wide, and no wider than the mask. -/
theorem width_of_measured (narrow : mask.width < 2 ^ 31) {blob : Blob}
    (measured : blob ∈ (detector.measurements mask).map Measurement.blob) :
    1 ≤ blob.width ∧ blob.width ≤ mask.width := by
  obtain ⟨measurement, taken, rfl⟩ := List.mem_map.mp measured
  obtain ⟨-, -, -, left, columns, right⟩ := (mem_measurements taken).within.1
  simp only [Measurement.blob, Blob.ofBounds]
  rw [signed32_of_word ⟨by omega, by omega⟩]
  omega

theorem accepts_of_lt (small : detector.maxSize < 2 ^ 31) (blob : Blob) :
    detector.accepts blob = decide (blob.Between detector.minSize detector.maxSize) :=
  Blob.fits_signed32 (Nat.lt_of_le_of_lt detector.minSize_le_maxSize small) small blob

/-- Where the upper limit has no sign bit, the boxes that are collected are those between the limits. -/
theorem detect_of_lt (small : detector.maxSize < 2 ^ 31) :
    detector.detect mask = (((detector.measurements mask).map Measurement.blob).filter
      (Blob.Between detector.minSize detector.maxSize ·)).foldl Blob.merge [] := by
  rw [detect, funext (accepts_of_lt small)]

/-- Where the upper limit has a sign bit, nothing is found. -/
theorem detect_of_ge (large : 2 ^ 31 ≤ detector.maxSize) (word : detector.maxSize < 2 ^ 32)
    (narrow : mask.width < 2 ^ 31) :
    detector.detect mask = [] := by
  have refused : ((detector.measurements mask).map Measurement.blob).filter detector.accepts = [] := by
    rw [List.filter_eq_nil_iff]
    intro blob measured accepted
    have positive := (width_of_measured narrow measured).1
    rw [accepts, Blob.fits_signed32_of_ge large word _ positive] at accepted
    exact Bool.false_ne_true accepted
  rw [detect, refused]
  rfl

/-- No box of a mask of ordinary width reaches a lower limit that has a sign bit. -/
theorem between_eq_nil (large : 2 ^ 31 ≤ detector.minSize) (narrow : mask.width < 2 ^ 31) :
    ((detector.measurements mask).map Measurement.blob).filter
      (Blob.Between detector.minSize detector.maxSize ·) = [] := by
  rw [List.filter_eq_nil_iff]
  intro blob measured between
  have wide := (width_of_measured narrow measured).2
  rw [decide_eq_true_eq, Blob.Between] at between
  omega

end Detector

namespace Tracker

/-- The limits of the detector are those of the parameters. -/
def Configured (tracker : Tracker) : Prop := tracker.params.detector = .ok tracker.detector

theorem Fresh.configured {tracker : Tracker} (fresh : Fresh tracker) : tracker.Configured := by
  cases fresh with
  | standard => rfl
  | @made params _ granted =>
    unfold ofParams at granted
    cases made : params.detector with
    | error => rw [made] at granted; cases granted
    | ok detector => rw [made] at granted; cases granted; exact made

theorem performed_configured {tracker next : Tracker} {touches : Option (List Touch)}
    (configured : tracker.Configured) (performed : Performed tracker touches next) : next.Configured := by
  cases performed with
  | refused | cleared | advanced => exact configured
  | configured _ _ made => exact made

theorem run_configured {tracker : Tracker} (configured : tracker.Configured) (actions : List Action) :
    (tracker.run actions).Configured :=
  run_invariant Configured (fun _ _ _ => performed_configured) configured actions

theorem Configured.sizes {tracker : Tracker} (configured : tracker.Configured) :
    tracker.detector.minSize = tracker.params.minSize ∧ tracker.detector.maxSize = tracker.params.maxSize :=
  Detector.ofSizes_ok configured

theorem perform_steady {tracker : Tracker} {action : Action} (fixed : ∀ params, action ≠ .setParams params) :
    (tracker.perform action).2.params = tracker.params ∧ (tracker.perform action).2.detector = tracker.detector := by
  cases action with
  | process image =>
    cases processed : tracker.process image with
    | error => simp only [perform, processed, and_self]
    | ok result =>
      obtain ⟨_, -, advanced, -⟩ := process_ok processed
      simp only [perform, processed, advanced]
      exact ⟨rfl, rfl⟩
  | update | clear => exact ⟨rfl, rfl⟩
  | setParams params => exact absurd rfl (fixed params)

theorem run_steady {tracker : Tracker} {actions : List Action}
    (fixed : ∀ action ∈ actions, ∀ params, action ≠ .setParams params) :
    (tracker.run actions).params = tracker.params ∧ (tracker.run actions).detector = tracker.detector := by
  induction actions generalizing tracker with
  | nil => exact ⟨rfl, rfl⟩
  | cons action actions ih =>
    obtain ⟨first, rest⟩ := List.forall_mem_cons.mp fixed
    rw [run, (ih rest).1, (ih rest).2]
    exact perform_steady first

/-- Where the upper limit has no sign bit, the boxes to be published are those with a pixel whose sides do not
exceed it. -/
theorem isEmitted_of_lt {params : TrackerParams} (small : params.maxSize < 2 ^ 31) (entry : TrackedBlob) :
    isEmitted params entry = decide (entry.blob.Between 1 params.maxSize) := by
  have one : signed32 (1 : Nat) = 1 := signed32_of_lt (by decide)
  rw [← Blob.fits_signed32 (by decide) small, one, isEmitted]

theorem touches_of_lt (tracker : Tracker) (small : tracker.params.maxSize < 2 ^ 31) {width height : Nat}
    (sized : width ≠ 0 ∧ height ≠ 0) :
    tracker.touches width height =
      (tracker.tracked.filter (·.blob.Between 1 tracker.params.maxSize)).map (touchOf width height) := by
  rw [touches, if_neg (not_or.mpr sized), emitted, funext (isEmitted_of_lt small)]

/-- Where the upper limit has a sign bit, nothing is published. -/
theorem touches_of_ge (tracker : Tracker) (large : 2 ^ 31 ≤ tracker.params.maxSize)
    (word : tracker.params.maxSize < 2 ^ 32) (width height : Nat) : tracker.touches width height = [] := by
  have hidden : tracker.emitted = [] := by
    rw [emitted, List.filter_eq_nil_iff]
    intro entry _ shown
    have positive : 1 ≤ entry.blob.width := by
      simp only [isEmitted, Blob.fits, Bool.and_eq_true, decide_eq_true_eq] at shown
      exact shown.1.1.1
    rw [isEmitted, Blob.fits_signed32_of_ge large word _ positive] at shown
    exact Bool.false_ne_true shown
  rw [touches, hidden]
  exact ite_self _

/-- In every reachable state the detector has the limits of the parameters. As long as the upper limit has no
sign bit, the boxes collected from a mask are those measured boxes that are between the limits as they were
given, and the boxes published after a frame are those that have a pixel and no side above the upper limit.
From half of the range on, nothing at all is found or published; in masks of ordinary width this is what the
limits say only if the lower one has a sign bit too. -/
theorem limits_hold_up_to_sign {tracker : Tracker} (fresh : Fresh tracker) (actions : List Action)
    (word : (tracker.run actions).params.maxSize < 2 ^ 32) :
    let final := tracker.run actions
    let params := final.params
    (final.detector.minSize = params.minSize ∧ final.detector.maxSize = params.maxSize) ∧
    (∀ mask : Mask, mask.width < 2 ^ 31 →
      let measured := (final.detector.measurements mask).map Measurement.blob
      (params.maxSize < 2 ^ 31 ∨ 2 ^ 31 ≤ params.minSize → final.detector.detect mask =
        (measured.filter (Blob.Between params.minSize params.maxSize ·)).foldl Blob.merge []) ∧
      (2 ^ 31 ≤ params.maxSize → final.detector.detect mask = [])) ∧
    ∀ candidates width height, width ≠ 0 → height ≠ 0 →
      let published := (final.update candidates width height).1
      (params.maxSize < 2 ^ 31 → published =
        ((final.advance candidates).tracked.filter (·.blob.Between 1 params.maxSize)).map
          (touchOf width height)) ∧
      (2 ^ 31 ≤ params.maxSize → published = []) := by
  intro final params
  obtain ⟨least, most⟩ := (run_configured fresh.configured actions).sizes
  refine ⟨⟨least, most⟩, fun mask narrow => ⟨fun plain => ?_, fun large => ?_⟩,
    fun candidates width height wide high => ⟨fun small => ?_, fun large => ?_⟩⟩
  · change final.params.maxSize < 2 ^ 31 ∨ 2 ^ 31 ≤ final.params.minSize at plain
    rw [← least, ← most] at plain ⊢
    rcases plain with small | large
    · exact Detector.detect_of_lt small
    · have high := Nat.le_trans large final.detector.minSize_le_maxSize
      rw [Detector.between_eq_nil large narrow, Detector.detect_of_ge high (most ▸ word) narrow]
      rfl
  · exact Detector.detect_of_ge (most ▸ large) (most ▸ word) narrow
  · exact (final.advance candidates).touches_of_lt small ⟨wide, high⟩
  · exact (final.advance candidates).touches_of_ge large word width height

def widened : List Action := [.setParams ⟨2, 2 ^ 31 - 1, 2, 3⟩, .setParams ⟨9, 8, 2, 3⟩]

theorem limits_hold_up_to_sign_widened :
    Fresh standard ∧ (standard.run widened).params.maxSize < 2 ^ 32 ∧
    (standard.run widened).detector.detect chained =
      ((((standard.run widened).detector.measurements chained).map Measurement.blob).filter
        (Blob.Between 2 (2 ^ 31 - 1) ·)).foldl Blob.merge [] ∧
    ((standard.run widened).update [⟨5, 5, 3, 3⟩, ⟨9, 9, 0, 4⟩] 10 10).1.map (·.id) = [1] := by
  have word : (standard.run widened).params.maxSize < 2 ^ 32 := by decide
  obtain ⟨-, found, published⟩ := limits_hold_up_to_sign .standard widened word
  refine ⟨.standard, word, (found chained (by decide +kernel)).1 (.inl (by decide)), ?_⟩
  rw [(published [⟨5, 5, 3, 3⟩, ⟨9, 9, 0, 4⟩] 10 10 (by decide) (by decide)).1 (by decide)]
  decide

def dot : Mask := Drawing.picture 1 1 [⟨0, 0, 0, 0⟩]

/-- With half of the range as the upper limit, which is granted, a box of a single pixel is measured and refused,
and is tracked and not published, though it is between the limits. -/
theorem nothing_passes_at_sign :
    ∃ detector tracker, Detector.ofSizes 1 (2 ^ 31) = .ok detector ∧
      ofParams ⟨1, 2 ^ 31, 2, 3⟩ = .ok tracker ∧ Blob.Between 1 (2 ^ 31) ⟨0, 0, 1, 1⟩ ∧
      (detector.measurements dot).map Measurement.blob = [⟨0, 0, 1, 1⟩] ∧ detector.detect dot = [] ∧
      (tracker.advance [⟨0, 0, 1, 1⟩]).tracked.map (·.blob) = [⟨0, 0, 1, 1⟩] ∧
      (tracker.update [⟨0, 0, 1, 1⟩] 1 1).1 = [] :=
  ⟨⟨1, 2 ^ 31, by decide, by decide⟩, _, rfl, rfl, by decide, by decide +kernel, by decide +kernel, by decide,
    by decide⟩

end Tracker
end TouchTracking
