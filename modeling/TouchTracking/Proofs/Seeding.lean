import TouchTracking.Proofs.Bags
import TouchTracking.Proofs.Reopening

/-! The way of settings through properties. What a source registers is what it reads when it is opened, but for the
seed: a property holds an integer with a sign, and so a seed in the upper half of the range comes out as zero. Only
below that half do different settings open as different sources. -/
namespace TouchTracking

namespace SquareSettings

variable {settings other : SquareSettings} {bag : PropertyBag}

/-- What a source that is made with the settings registers, on top of what there is. -/
def registered (settings : SquareSettings) (bag : PropertyBag) : PropertyBag :=
  (Camera.properties Unit (SquareSource.ofSettings settings)).foldl
    (fun bag entry => bag.register entry.1 entry.2) bag

/-- What properties carry of the settings: a seed that looks like a negative number counts as zero. -/
def carried (settings : SquareSettings) : SquareSettings :=
  { settings with seed := if settings.seed < 1 <<< 63 then settings.seed else 0 }

/-- No field but the seed bears on whether settings fit together. -/
theorem validate_carried (settings : SquareSettings) : settings.carried.validate = settings.validate := rfl

theorem carried_eq_self_iff : settings.carried = settings ↔ settings.seed < 1 <<< 63 := by
  have halved : settings.carried.seed = if settings.seed < 1 <<< 63 then settings.seed else 0 := rfl
  constructor
  · intro same
    rw [same] at halved
    split at halved <;> omega
  · intro low
    rw [carried, if_pos low]

theorem naturalOf_registered {name : String} {property : Property} (place : Nat)
    (listed : settings.properties[place]? = some (name, property)) (bag : PropertyBag) (fallback : Nat) :
    naturalOf (settings.registered bag) name fallback = property.value.toInt.toNat := by
  have distinct : (settings.properties.map Prod.fst).Nodup := by
    show ["width", "height", "blobs", "size", "speed", "seed"].Nodup
    decide
  have found : (settings.registered bag).get? name = some property :=
    (PropertyBag.get?_foldl_register distinct bag).1 _ (List.mem_of_getElem? listed)
  rw [naturalOf, found]

theorem toNat_signed64 {seed : Nat} (bounded : seed < 1 <<< 64) :
    (signed64 seed).toNat = if seed < 1 <<< 63 then seed else 0 := by
  split
  next low => rw [signed64_of_lt low, Int.toNat_natCast]
  next high => exact Int.toNat_of_nonpos (Int.le_of_lt (signed64_neg (Nat.not_lt.mp high) bounded))

theorem ofProperties_registered (bounded : settings.Bounded) (bag : PropertyBag) :
    ofProperties (settings.registered bag) = settings.carried := by
  have field {name : String} {property : Property} {n : Nat} (place : Nat)
      (listed : settings.properties[place]? = some (name, property)) (holds : property.value = .int n)
      (fits : n < 1 <<< 32) (fallback : Nat) :
      naturalOf (settings.registered bag) name fallback % (1 <<< 32) = n := by
    rw [naturalOf_registered place listed, holds]
    exact Nat.mod_eq_of_lt fits
  have seed (fallback : Nat) : naturalOf (settings.registered bag) "seed" fallback = settings.carried.seed :=
    (naturalOf_registered 5 rfl bag fallback).trans (toNat_signed64 bounded.seed)
  simp only [ofProperties]
  rw [field 0 rfl rfl bounded.width, field 1 rfl rfl bounded.height, field 2 rfl rfl bounded.blobs,
    field 3 rfl rfl bounded.size, field 4 rfl rfl bounded.speed, seed]
  rfl

end SquareSettings

namespace SquareSource

variable {settings : SquareSettings}

def opened (settings : SquareSettings) (bag : PropertyBag) : Except Failure (Option Raster.Image) × SquareSource :=
  (ofSettings settings).act (.opening (settings.registered bag))

theorem opened_eq (bounded : settings.Bounded) (valid : settings.validate = .ok ()) (bag : PropertyBag) :
    opened settings bag = (.ok none, begin settings.carried (.ofSeed settings.carried.seed)) := by
  have carries := SquareSettings.ofProperties_registered bounded bag
  have valid' : (SquareSettings.ofProperties (settings.registered bag)).validate = .ok () := by
    rw [carries, SquareSettings.validate_carried, valid]
  rw [opened, act_opening _ valid', carries]

/-- A source with valid settings can be opened with the properties it registers, whatever else is registered. Then it
has its settings back exactly if the seed is in the lower half of the range, and the seed zero in place of its own
otherwise. So two sources open as the same one exactly if their settings differ in such seeds at most. -/
theorem opens_as_carried (bounded : settings.Bounded) (valid : settings.validate = .ok ()) (bag : PropertyBag) :
    (opened settings bag).1 = .ok none ∧ (opened settings bag).2.isOpen = true ∧
      (opened settings bag).2.settings = settings.carried ∧
      ((opened settings bag).2.settings = settings ↔ settings.seed < 1 <<< 63) ∧
      ∀ (other : SquareSettings) (bag' : PropertyBag), other.Bounded → other.validate = .ok () →
        ((opened other bag').2 = (opened settings bag).2 ↔ other.carried = settings.carried) := by
  have here := opened_eq bounded valid bag
  refine ⟨by rw [here], by rw [here]; rfl, by rw [here]; rfl, ?_, fun other bag' bounded' valid' => ?_⟩
  · rw [here]
    exact SquareSettings.carried_eq_self_iff
  · rw [here, opened_eq bounded' valid' bag']
    refine ⟨fun same => ?_, fun same => by rw [same]⟩
    exact congrArg SquareSource.settings same

/-- The cramped squares from another seed. -/
def seeded (seed : Nat) : SquareSettings := { cramped with seed }

theorem bounded_seeded {seed : Nat} (bounded : seed < 1 <<< 64) : (seeded seed).Bounded := by
  have others : cramped.Bounded := ⟨by decide, by decide, by decide, by decide, by decide, by decide⟩
  exact { others with seed := bounded }

/-- The greatest seed of the lower half comes back, over properties of other settings. -/
theorem opens_as_carried_greatest :
    (seeded ((1 <<< 63) - 1)).Bounded ∧ (seeded ((1 <<< 63) - 1)).validate = .ok () ∧
    (opened (seeded ((1 <<< 63) - 1)) (SquareSettings.standard.registered .empty)).2.settings =
      seeded ((1 <<< 63) - 1) ∧
    (opened (seeded 0) .empty).2 ≠
      (opened (seeded ((1 <<< 63) - 1)) (SquareSettings.standard.registered .empty)).2 := by
  have bounded : (seeded ((1 <<< 63) - 1)).Bounded := bounded_seeded (by decide)
  obtain ⟨-, -, -, kept, others⟩ := opens_as_carried bounded rfl (SquareSettings.standard.registered .empty)
  refine ⟨bounded, rfl, kept.mpr (by decide), fun same => ?_⟩
  have confused := (others (seeded 0) .empty (bounded_seeded (by decide)) rfl).mp same
  exact absurd confused (by decide)

/-- Half of the range as the seed is granted, and lost: the source opens as the one from the seed zero. -/
theorem opens_from_zero_at_sign :
    (seeded (1 <<< 63)).Bounded ∧ (seeded (1 <<< 63)).validate = .ok () ∧
    (opened (seeded (1 <<< 63)) .empty).1 = .ok none ∧
    (opened (seeded (1 <<< 63)) .empty).2.settings = seeded 0 ∧ seeded 0 ≠ seeded (1 <<< 63) ∧
    (opened (seeded (1 <<< 63)) .empty).2 = (opened (seeded 0) .empty).2 := by
  have bounded : (seeded (1 <<< 63)).Bounded := bounded_seeded (by decide)
  have carried : (seeded (1 <<< 63)).carried = seeded 0 := by decide
  have kept : (seeded 0).carried = seeded 0 := by decide
  have here := opened_eq bounded rfl .empty
  have zero := opened_eq (bounded_seeded (by decide)) (rfl : (seeded 0).validate = .ok ()) .empty
  refine ⟨bounded, rfl, by rw [here], ?_, by decide, ?_⟩
  · rw [here, begin, carried]
  · rw [here, zero, carried, kept]

end SquareSource

end TouchTracking
