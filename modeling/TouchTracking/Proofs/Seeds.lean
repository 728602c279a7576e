import TouchTracking.Blob.Detector

/-! The seed grid: the multiples of the stride inside the mask, in raster order. Every run of pixels at
least as long as the smallest side sought holds one of them. -/
namespace TouchTracking

/-- Raster order: by rows, and from left to right within a row. -/
def Raster.Precedes (pixel other : Nat × Nat) : Prop :=
  pixel.1 < other.1 ∨ pixel.1 = other.1 ∧ pixel.2 < other.2

namespace Detector

open Raster (Mask Precedes)

theorem stride_pos (detector : Detector) : 0 < detector.stride := detector.one_le_minSize

theorem mem_ticks (detector : Detector) (limit tick : Nat) :
    tick ∈ detector.ticks limit ↔ tick < limit ∧ detector.stride ∣ tick := by
  have positive := detector.stride_pos
  have below (count : Nat) :
      count < (limit + detector.stride - 1) / detector.stride ↔ count * detector.stride < limit := by
    rw [Nat.lt_iff_add_one_le, Nat.le_div_iff_mul_le positive, Nat.succ_mul]
    omega
  simp only [ticks, List.mem_map, List.mem_range]
  constructor
  · rintro ⟨count, inside, rfl⟩
    exact ⟨(below count).mp inside, Nat.dvd_mul_left ..⟩
  · rintro ⟨inside, count, rfl⟩
    rw [Nat.mul_comm] at inside ⊢
    exact ⟨count, (below count).mpr inside, rfl⟩

theorem ticks_ascend (detector : Detector) (limit : Nat) :
    (detector.ticks limit).Pairwise (· < ·) := by
  refine List.pairwise_map.mpr (List.pairwise_lt_range.imp fun less => ?_)
  exact Nat.mul_lt_mul_of_pos_right less detector.stride_pos

theorem mem_grid (detector : Detector) (mask : Mask) (seed : Nat × Nat) :
    seed ∈ detector.grid mask ↔ (seed.1 < mask.height ∧ detector.stride ∣ seed.1) ∧
      seed.2 < mask.width ∧ detector.stride ∣ seed.2 := by
  unfold grid
  split
  next empty =>
    simp only [List.not_mem_nil, false_iff]
    omega
  next =>
    obtain ⟨row, column⟩ := seed
    simp only [List.mem_flatMap, List.mem_map, Prod.mk.injEq, mem_ticks]
    constructor
    · rintro ⟨_, row_tick, _, column_tick, rfl, rfl⟩
      exact ⟨row_tick, column_tick⟩
    · rintro ⟨row_tick, column_tick⟩
      exact ⟨row, row_tick, column, column_tick, rfl, rfl⟩

theorem grid_ordered (detector : Detector) (mask : Mask) :
    (detector.grid mask).Pairwise Precedes := by
  unfold grid
  split
  · exact .nil
  · refine List.pairwise_flatMap.mpr ⟨fun row _ => ?_, ?_⟩
    · exact List.pairwise_map.mpr ((detector.ticks_ascend _).imp fun less => .inr ⟨rfl, less⟩)
    · refine (detector.ticks_ascend _).imp fun less seed member other later => .inl ?_
      obtain ⟨_, -, rfl⟩ := List.mem_map.mp member
      obtain ⟨_, -, rfl⟩ := List.mem_map.mp later
      exact less

theorem nodup_of_ordered {seeds : List (Nat × Nat)} (ordered : seeds.Pairwise Precedes) : seeds.Nodup :=
  ordered.imp fun before same => by
    subst same
    simp only [Precedes] at before
    omega

/-- As many numbers in a row as the stride is long hold a multiple of it. -/
theorem exists_tick (detector : Detector) (first last : Nat)
    (long : first + detector.stride ≤ last + 1) :
    ∃ tick, first ≤ tick ∧ tick ≤ last ∧ detector.stride ∣ tick := by
  have positive := detector.stride_pos
  refine ⟨(last / detector.stride) * detector.stride, ?_, Nat.div_mul_le_self .., Nat.dvd_mul_left ..⟩
  have whole := Nat.div_add_mod' last detector.stride
  have rest := Nat.mod_lt last positive
  omega

end Detector
end TouchTracking
