import Mathlib.Data.List.Nodup
import TouchTracking.Proofs.Rectangles
import TouchTracking.Proofs.Seeds

/-! The order in which a scan takes rectangles out. The scan clears one whole rectangle at the first
seed that lies in it, so that at every moment the rectangles still shown are those without a visited
seed. `Swept` is that scan without its mask. -/
namespace TouchTracking

open Raster (Mask Precedes)

/-- A seed is the first of some seeds in a rectangle when it precedes all others in it. -/
structure First (seeds : List (Nat × Nat)) (bounds : Bounds) (seed : Nat × Nat) : Prop where
  member : seed ∈ seeds
  inside : bounds.Covers seed.1 seed.2
  least : ∀ other ∈ seeds, bounds.Covers other.1 other.2 → other = seed ∨ Precedes seed other

/-- Both rectangles hold seeds, and the first one of the one precedes the first one of the other. -/
def Before (seeds : List (Nat × Nat)) (bounds other : Bounds) : Prop :=
  ∃ seed seed', First seeds bounds seed ∧ First seeds other seed' ∧ Precedes seed seed'

def Unshared (rects : List Bounds) : Prop :=
  ∀ bounds ∈ rects, ∀ other ∈ rects, ∀ row column, bounds.Covers row column →
    other.Covers row column → bounds = other

theorem Unshared.filter {rects : List Bounds} (unshared : Unshared rects) (keep : Bounds → Bool) :
    Unshared (rects.filter keep) := fun bounds member other member' =>
  unshared bounds (List.mem_of_mem_filter member) other (List.mem_of_mem_filter member')

/-- Visiting the seeds takes the rectangles out one by one, each at a seed that lies in it. -/
inductive Swept : List (Nat × Nat) → List Bounds → List Bounds → Prop
  | done (rects : List Bounds) : Swept [] rects []
  | miss {seed : Nat × Nat} {seeds : List (Nat × Nat)} {rects out : List Bounds}
      (clear : ∀ bounds ∈ rects, ¬ bounds.Covers seed.1 seed.2) (rest : Swept seeds rects out) :
      Swept (seed :: seeds) rects out
  | hit {seed : Nat × Nat} {seeds : List (Nat × Nat)} {rects out : List Bounds} {bounds : Bounds}
      (member : bounds ∈ rects) (covered : bounds.Covers seed.1 seed.2)
      (rest : Swept seeds (rects.filter (· ≠ bounds)) out) :
      Swept (seed :: seeds) rects (bounds :: out)

section Order

variable {seeds : List (Nat × Nat)} {seed : Nat × Nat} {bounds : Bounds} {rects out : List Bounds}

theorem First.cons (outside : ¬ bounds.Covers seed.1 seed.2) {first : Nat × Nat}
    (least : First seeds bounds first) : First (seed :: seeds) bounds first where
  member := List.mem_cons_of_mem _ least.member
  inside := least.inside
  least other member inside := by
    rcases List.mem_cons.mp member with rfl | member
    · exact absurd inside outside
    · exact least.least other member inside

theorem Before.cons {other : Bounds} (outside : ¬ bounds.Covers seed.1 seed.2)
    (outside' : ¬ other.Covers seed.1 seed.2) (before : Before seeds bounds other) :
    Before (seed :: seeds) bounds other := by
  obtain ⟨first, first', least, least', precedes⟩ := before
  exact ⟨first, first', least.cons outside, least'.cons outside', precedes⟩

theorem First.head (ordered : (seed :: seeds).Pairwise Precedes)
    (inside : bounds.Covers seed.1 seed.2) : First (seed :: seeds) bounds seed where
  member := List.mem_cons_self
  inside := inside
  least other member _ := by
    rcases List.mem_cons.mp member with rfl | member
    · exact .inl rfl
    · exact .inr ((List.pairwise_cons.mp ordered).1 other member)

theorem First.mem_tail (ordered : (seed :: seeds).Pairwise Precedes) {first : Nat × Nat}
    (least : First seeds bounds first) : Precedes seed first :=
  (List.pairwise_cons.mp ordered).1 first least.member

namespace Swept

theorem subset (swept : Swept seeds rects out) : ∀ bounds ∈ out, bounds ∈ rects := by
  induction swept with
  | done => simp
  | miss _ _ ih => exact ih
  | hit member _ _ ih =>
    intro other taken
    rcases List.mem_cons.mp taken with rfl | taken
    · exact member
    · exact List.mem_of_mem_filter (ih other taken)

theorem nodup (swept : Swept seeds rects out) : out.Nodup := by
  induction swept with
  | done => exact .nil
  | miss _ _ ih => exact ih
  | hit _ _ rest ih =>
    refine List.nodup_cons.mpr ⟨fun again => ?_, ih⟩
    simpa using (List.mem_filter.mp (rest.subset _ again)).2

theorem complete (swept : Swept seeds rects out) (member : bounds ∈ rects) (visited : seed ∈ seeds)
    (covered : bounds.Covers seed.1 seed.2) (unshared : Unshared rects) : bounds ∈ out := by
  induction swept with
  | done => cases visited
  | miss clear _ ih =>
    rcases List.mem_cons.mp visited with rfl | visited
    · exact absurd covered (clear bounds member)
    · exact ih member visited unshared
  | @hit first _ rects _ taken member' covered' _ ih =>
    by_cases same : bounds = taken
    · exact same ▸ List.mem_cons_self
    · refine List.mem_cons_of_mem _ (ih (by simpa using ⟨member, same⟩) ?_ (unshared.filter _))
      rcases List.mem_cons.mp visited with rfl | visited
      · exact absurd (unshared _ member _ member' _ _ covered covered') same
      · exact visited

/-- What is taken out has a first seed, and comes in the order of the first seeds. -/
theorem ordered (swept : Swept seeds rects out) (order : seeds.Pairwise Precedes)
    (unshared : Unshared rects) :
    (∀ bounds ∈ out, ∃ seed, First seeds bounds seed) ∧ out.Pairwise (Before seeds) := by
  induction swept with
  | done => exact ⟨by simp, .nil⟩
  | @miss seed seeds rects out clear rest ih =>
    obtain ⟨firsts, pairs⟩ := ih (List.pairwise_cons.mp order).2 unshared
    have clear' : ∀ bounds ∈ out, ¬ bounds.Covers seed.1 seed.2 := fun bounds taken =>
      clear bounds (rest.subset bounds taken)
    refine ⟨fun bounds taken => ?_, pairs.imp_of_mem fun taken taken' before =>
      before.cons (clear' _ taken) (clear' _ taken')⟩
    obtain ⟨first, least⟩ := firsts bounds taken
    exact ⟨first, least.cons (clear' bounds taken)⟩
  | @hit seed seeds rects out bounds member covered rest ih =>
    obtain ⟨firsts, pairs⟩ := ih (List.pairwise_cons.mp order).2 (unshared.filter _)
    have clear : ∀ other ∈ out, ¬ other.Covers seed.1 seed.2 := by
      intro other taken inside
      obtain ⟨known, distinct⟩ := List.mem_filter.mp (rest.subset other taken)
      exact absurd (unshared _ known _ member _ _ inside covered) (by simpa using distinct)
    refine ⟨fun other taken => ?_, List.pairwise_cons.mpr ⟨fun other taken => ?_,
      pairs.imp_of_mem fun taken taken' before => before.cons (clear _ taken) (clear _ taken')⟩⟩
    · rcases List.mem_cons.mp taken with rfl | taken
      · exact ⟨seed, .head order covered⟩
      · obtain ⟨first, least⟩ := firsts other taken
        exact ⟨first, least.cons (clear other taken)⟩
    · obtain ⟨first, least⟩ := firsts other taken
      exact ⟨seed, first, .head order covered, least.cons (clear other taken), least.mem_tail order⟩

end Swept

end Order

theorem Drawing.unshared {mask : Mask} {rects : List Bounds} (drawing : Drawing mask rects) :
    Unshared rects := fun _ member _ member' _ _ => drawing.unique member member'

/-- The scan of a drawing measures what visiting its seeds takes out, in the same order. -/
theorem Drawing.scan {mask : Mask} {rects : List Bounds} (drawing : Drawing mask rects)
    (seeds : List (Nat × Nat)) (measured : List Measurement) :
    ∃ out, Swept seeds rects out ∧
      (seeds.foldl Detector.Scan.visit ⟨mask, measured⟩).measured.map Measurement.bounds =
        out.reverse ++ measured.map Measurement.bounds := by
  induction seeds generalizing mask rects measured with
  | nil => exact ⟨[], .done rects, rfl⟩
  | cons seed seeds ih =>
    rw [List.foldl_cons, Detector.Scan.visit]
    by_cases shown : mask.isForeground seed.1 seed.2 = true
    · obtain ⟨bounds, member, covered⟩ := (drawing.foreground ..).mp shown
      have exact_measure := Detector.measure_isolated (drawing.isolated member) covered
      obtain ⟨out, swept, listed⟩ :=
        ih (drawing.erase member) (⟨seed.1, seed.2, bounds⟩ :: measured)
      refine ⟨bounds :: out, .hit member covered swept, ?_⟩
      simp only [shown, if_true, exact_measure, listed]
      simp
    · obtain ⟨out, swept, listed⟩ := ih drawing measured
      refine ⟨out, .miss ?_ swept, ?_⟩
      · intro bounds member covered
        exact shown ((drawing.foreground ..).mpr ⟨bounds, member, covered⟩)
      · rw [if_neg shown, listed]

end TouchTracking
