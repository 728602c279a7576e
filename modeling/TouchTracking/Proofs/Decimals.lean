import TouchTracking.Decimal.Layout
import TouchTracking.Proofs.Shares

/-! The shortest decimal of a single. Its search looks for a decimal that is rounded to the number it was made of, and
seventeen digits are enough to find one: the grid is then finer than half of the last place. So no two singles share
their decimal. -/
namespace TouchTracking

namespace Binary.Format

variable {format : Format} {place : Int} {significand : Nat} {number : ℚ}

/-- A number that is greater by less than half of the last place is rounded to the same word. -/
theorem Canonical.rounds_above (canonical : format.Canonical place significand)
    (above : (significand : ℚ) * 2 ^ place ≤ number) (near : number < significand * 2 ^ place + 2 ^ place / 2) :
    format.Rounds number place significand := by
  have unit : (0 : ℚ) < 2 ^ place := by positivity
  have scaled : number * 2 ^ (-place) = number / 2 ^ place := by rw [zpow_neg, div_eq_mul_inv]
  have least : (significand : ℚ) ≤ number / 2 ^ place := (le_div_iff₀ unit).mpr above
  have most : number / 2 ^ place < significand + 1 / 2 := by
    rw [div_lt_iff₀ unit]
    linarith
  constructor
  case lowest => exact canonical.lowest
  case nearest =>
    rw [scaled]
    constructor <;> intros <;> linarith
  case fits =>
    have room : (significand : ℚ) + 1 ≤ 2 ^ (format.fractionBits + 1) := by exact_mod_cast canonical.room
    have end_ : ((significand : ℚ) + 1) * 2 ^ place ≤ 2 ^ (format.fractionBits + 1) * 2 ^ place :=
      mul_le_mul_of_nonneg_right room unit.le
    rw [Int.add_assoc, zpow_add₀ two_ne_zero, mul_comm]
    have same : (2 : ℚ) ^ ((format.fractionBits : Int) + 1) = 2 ^ (format.fractionBits + 1) := by norm_cast
    rw [same]
    linarith
  case leads => exact fun raised => (canonical.rounds.leads raised).trans above

/-- The word of a number depends on nothing but how the number is rounded. -/
theorem Rounds.nearestMagnitude_eq {numerator denominator : Nat} (positive : 0 < numerator)
    (positive' : 0 < denominator) (rounds : format.Rounds (numerator / denominator) place significand)
    (finite : format.wordOf place significand < format.infinityWord) :
    format.nearestMagnitude numerator denominator = format.wordOf place significand := by
  obtain ⟨place', significand', rounds', word⟩ := format.nearestMagnitude_rounds positive positive'
  have below := rounds.mono rounds' le_rfl
  have above := rounds'.mono rounds le_rfl
  rw [word]
  omega

end Binary.Format

namespace Decimal

open Binary (Format)

def Scientific.value (decimal : Scientific) : ℚ := decimal.digits * 10 ^ decimal.exponent

def Ratio.value (ratio : Ratio) : ℚ := ratio.numerator / ratio.denominator

theorem zpow_split (base : ℚ) (power : Int) :
    base ^ power = base ^ power.toNat / base ^ (-power).toNat := by
  rcases Int.le_total 0 power with up | down
  · obtain ⟨count, rfl⟩ := Int.eq_ofNat_of_zero_le up
    simp
  · obtain ⟨count, same⟩ := Int.eq_ofNat_of_zero_le (Int.neg_nonneg_of_nonpos down)
    obtain rfl : power = -count := by omega
    simp [zpow_neg]

theorem denominator_ofBinary_pos (significand : Nat) (exponent : Int) :
    0 < (Ratio.ofBinary significand exponent).denominator := by
  rw [Ratio.ofBinary, Nat.one_shiftLeft]
  exact Nat.two_pow_pos _

theorem numerator_ofBinary_pos {significand : Nat} (filled : 0 < significand) (exponent : Int) :
    0 < (Ratio.ofBinary significand exponent).numerator := by
  rw [Ratio.ofBinary, Nat.shiftLeft_eq]
  exact Nat.mul_pos filled (Nat.two_pow_pos _)

theorem value_ofBinary (significand : Nat) (exponent : Int) :
    (Ratio.ofBinary significand exponent).value = significand * 2 ^ exponent := by
  have shift := Binary.shifted significand 1 (-exponent)
  rw [Int.neg_neg, Nat.cast_one, div_one] at shift
  exact shift

theorem value_scale (ratio : Ratio) (power : Int) : (ratio.scale power).value = ratio.value / 10 ^ power := by
  rw [zpow_split, Ratio.value, Ratio.scale, Ratio.value]
  simp only [Nat.pow_eq]
  push_cast
  field_simp

theorem Ratio.floor_le {ratio : Ratio} (positive : 0 < ratio.denominator) : (ratio.floor : ℚ) ≤ ratio.value := by
  rw [Ratio.value, Ratio.floor, le_div_iff₀ (by exact_mod_cast positive)]
  exact_mod_cast Nat.div_mul_le_self ..

theorem Ratio.lt_floor_add_one {ratio : Ratio} (positive : 0 < ratio.denominator) : ratio.value < ratio.floor + 1 := by
  rw [Ratio.value, Ratio.floor, div_lt_iff₀ (by exact_mod_cast positive)]
  exact_mod_cast Nat.lt_mul_of_div_lt (Nat.lt_succ_self _) positive

/-- A decimal that reads back is a quotient that is rounded to the word. -/
theorem exists_of_readsBack {format : Format} {word : Nat} {decimal : Scientific} (low : -400 ≤ decimal.exponent)
    (high : decimal.exponent ≤ 400) (reads : readsBack format word decimal = true) : ∃ numerator denominator : Nat,
      0 < denominator ∧ (numerator : ℚ) / denominator = decimal.value ∧
      format.nearestMagnitude numerator denominator = word := by
  rw [readsBack, beq_iff_eq, Format.ofDecimal] at reads
  split at reads
  next none =>
    refine ⟨0, 1, Nat.one_pos, ?_, ?_⟩
    · simp [Scientific.value, none]
    · simpa [Format.nearestMagnitude, Format.signed] using reads
  next =>
    rw [if_neg (by omega), if_neg (by omega)] at reads
    refine ⟨_, _, ?_, ?_, reads⟩
    · exact Nat.pow_pos (by decide)
    · rw [Scientific.value, zpow_split]
      simp only [Nat.pow_eq]
      push_cast
      ring

theorem readsBack_of_nearestMagnitude {format : Format} {word : Nat} {decimal : Scientific}
    (low : -400 ≤ decimal.exponent) (high : decimal.exponent ≤ 400) (filled : decimal.digits ≠ 0)
    (nearest : format.nearestMagnitude (decimal.digits * 10 ^ decimal.exponent.toNat)
      (10 ^ (-decimal.exponent).toNat) = word) : readsBack format word decimal = true := by
  rw [readsBack, beq_iff_eq, Format.ofDecimal, if_neg filled, if_neg (by omega), if_neg (by omega)]
  exact nearest

/-- Three tenths of the binary places are decimal places, for all places that a single has. -/
theorem ten_pow_guess_le : ∀ count : Nat, count < 277 →
    (10 : Nat) ^ (((count : Int) - 149) * 1233 / 4096).toNat * 2 ^ (-((count : Int) - 149)).toNat ≤
      10 * 2 ^ ((count : Int) - 149).toNat * 10 ^ (-(((count : Int) - 149) * 1233 / 4096)).toNat := by
  decide +kernel

/-- The count of places may be one too many, but no more. -/
theorem ten_zpow_magnitude_le {ratio : Ratio} (positive : 0 < ratio.numerator) (positive' : 0 < ratio.denominator)
    (low : -149 ≤ Binary.floorLog2 ratio.numerator ratio.denominator)
    (high : Binary.floorLog2 ratio.numerator ratio.denominator < 128) :
    (10 : ℚ) ^ (ratio.magnitude - 1) ≤ 10 * ratio.value ∧ -50 ≤ ratio.magnitude ∧ ratio.magnitude ≤ 50 := by
  have at_least : (2 : ℚ) ^ Binary.floorLog2 ratio.numerator ratio.denominator ≤ ratio.value :=
    (Binary.floorLog2_spec positive positive').1
  have size : 0 ≤ ratio.value := (zpow_nonneg (by norm_num) _).trans at_least
  have reached {power : Int} (whole : 1 ≤ (ratio.scale power).floor) : (10 : ℚ) ^ power ≤ 10 * ratio.value := by
    have filled : 0 < (ratio.scale power).denominator := Nat.mul_pos positive' (Nat.pow_pos (by decide))
    have whole : (1 : ℚ) ≤ (ratio.scale power).floor := by exact_mod_cast whole
    have scaled := whole.trans (Ratio.floor_le filled)
    rw [value_scale, one_le_div (by positivity)] at scaled
    linarith
  unfold Ratio.magnitude
  generalize Binary.floorLog2 ratio.numerator ratio.denominator = leading at *
  obtain ⟨count, rfl⟩ : ∃ count : Nat, leading = count - 149 := ⟨(leading + 149).toNat, by omega⟩
  have guess_le := ten_pow_guess_le count (by omega)
  simp only
  generalize guess_ : ((count : Int) - 149) * 1233 / 4096 = guess at guess_le ⊢
  split
  next whole => exact ⟨by rw [show guess + 2 - 1 = guess + 1 by omega]; exact reached whole, by omega, by omega⟩
  next =>
    split
    next whole => exact ⟨by rw [show guess + 1 - 1 = guess by omega]; exact reached whole, by omega, by omega⟩
    next =>
      refine ⟨?_, by omega, by omega⟩
      have whole : (10 : ℚ) ^ guess ≤ 10 * 2 ^ ((count : Int) - 149) := by
        rw [zpow_split 10, zpow_split 2, ← mul_div_assoc, div_le_div_iff₀ (by positivity) (by positivity)]
        exact_mod_cast guess_le
      have less : (10 : ℚ) ^ (guess - 1) ≤ 10 ^ guess := zpow_le_zpow_right₀ (by norm_num) (by omega)
      linarith

/-- Zeros at the end of the digits may as well stand in the exponent. -/
theorem value_trimmed (fuel : Nat) (decimal : Scientific) : (decimal.trimmed fuel).value = decimal.value := by
  induction fuel generalizing decimal with
  | zero => rfl
  | succ fuel ih =>
    rw [Scientific.trimmed]
    split
    next whole =>
      have digits : (decimal.digits : ℚ) = (decimal.digits / 10 : Nat) * 10 := by
        exact_mod_cast (Nat.div_mul_cancel (Nat.dvd_of_mod_eq_zero whole.2)).symm
      rw [ih, Scientific.value, Scientific.value, digits, zpow_add₀ (by norm_num), zpow_one]
      ring
    next => rfl

variable {format : Format} {tie : Tie} {word : Nat} {ratio : Ratio} {decimal : Scientific}

theorem nearer_cases (tie : Tie) (ratio : Ratio) (lower : Nat) :
    nearer tie ratio lower = lower ∨ nearer tie ratio lower = lower + 1 := by
  have parity := Nat.mod_two_eq_zero_or_one lower
  simp only [nearer]
  cases tie <;> simp only <;> split_ifs <;> omega

theorem readsBack_of_onGrid {grid : Int} (hit : onGrid format tie word ratio grid = some decimal) :
    decimal.exponent = grid ∧ readsBack format word decimal = true := by
  unfold onGrid at hit
  simp only at hit
  split at hit
  next below above =>
    cases hit
    rcases nearer_cases tie (ratio.scale grid) (ratio.scale grid).floor with lower | upper
    · exact ⟨rfl, by rwa [lower]⟩
    · exact ⟨rfl, by rwa [upper]⟩
  next below _ => exact Option.some.inj hit ▸ ⟨rfl, below⟩
  next above => exact Option.some.inj hit ▸ ⟨rfl, above⟩
  next => cases hit

/-- On a grid that is finer than half of the last place, the next decimal above reads back. -/
theorem readsBack_above {place grid : Int} {significand : Nat} (canonical : format.Canonical place significand)
    (finite : format.wordOf place significand < format.infinityWord) (fine : (10 : ℚ) ^ grid < 2 ^ place / 2)
    (low : -400 ≤ grid) (high : grid ≤ 400) :
    readsBack format (format.wordOf place significand)
      ⟨((Ratio.ofBinary significand place).scale grid).floor + 1, grid⟩ = true := by
  have filled : 0 < ((Ratio.ofBinary significand place).scale grid).denominator :=
    Nat.mul_pos (denominator_ofBinary_pos ..) (Nat.pow_pos (by decide))
  have least := Ratio.floor_le filled
  have most := Ratio.lt_floor_add_one filled
  generalize ((Ratio.ofBinary significand place).scale grid).floor = lower at least most ⊢
  have unit : (0 : ℚ) < 10 ^ grid := by positivity
  rw [value_scale, value_ofBinary] at least most
  rw [le_div_iff₀ unit] at least
  rw [div_lt_iff₀ unit] at most
  refine readsBack_of_nearestMagnitude low high (Nat.succ_ne_zero lower) ?_
  have quotient : (((lower + 1) * 10 ^ grid.toNat : Nat) : ℚ) / (10 ^ (-grid).toNat : Nat) =
      lower * 10 ^ grid + 10 ^ grid := by
    rw [zpow_split 10 grid]
    push_cast
    ring
  have rounds : format.Rounds
      (((lower + 1) * 10 ^ grid.toNat : Nat) / (10 ^ (-grid).toNat : Nat)) place significand := by
    rw [quotient]
    exact canonical.rounds_above (by linarith) (by linarith)
  exact rounds.nearestMagnitude_eq (by positivity) (by positivity) finite

theorem single_fits {significand : Nat} {place : Int} (canonical : Format.single.Canonical place significand) :
    (significand : ℚ) * 2 ^ place < 2 ^ 24 * 2 ^ place := by
  have room : significand < 2 ^ 24 := canonical.room
  exact mul_lt_mul_of_pos_right (by exact_mod_cast room) (by positivity)

theorem floorLog2_single {numerator denominator significand : Nat} {place : Int} (positive : 0 < numerator)
    (positive' : 0 < denominator) (canonical : Format.single.Canonical place significand) (filled : 0 < significand)
    (finite : Format.single.wordOf place significand < Format.single.infinityWord)
    (same : (numerator : ℚ) / denominator = significand * 2 ^ place) :
    -149 ≤ Binary.floorLog2 numerator denominator ∧ Binary.floorLog2 numerator denominator < 128 := by
  obtain ⟨at_least, below⟩ := Binary.floorLog2_spec positive positive'
  have lowest : -149 ≤ place := canonical.lowest
  have some_ : (1 : ℚ) ≤ significand := by exact_mod_cast filled
  have fits := single_fits canonical
  have top : place ≤ 104 := by
    by_contra above
    have wide := canonical.filled (by rw [show Format.single.lowestPlace = -149 from rfl]; omega)
    have steps : (place - Format.single.lowestPlace).toNat = (place + 149).toNat := rfl
    have word : Format.single.infinityWord = 255 * 2 ^ 23 := by decide
    rw [Format.wordOf, steps, word] at finite
    have bits : 2 ^ Format.single.fractionBits = 2 ^ 23 := rfl
    rw [bits] at wide finite
    omega
  rw [same] at at_least below
  constructor
  · have small : (2 : ℚ) ^ place < 2 ^ (Binary.floorLog2 numerator denominator + 1) := by
      refine lt_of_le_of_lt ?_ below
      exact le_mul_of_one_le_left (by positivity) some_
    rw [zpow_lt_zpow_iff_right₀ one_lt_two] at small
    omega
  · have large : (2 : ℚ) ^ Binary.floorLog2 numerator denominator < 2 ^ ((24 : Nat) + place) := by
      rw [zpow_add₀ two_ne_zero, zpow_natCast]
      exact at_least.trans_lt fits
    rw [zpow_lt_zpow_iff_right₀ one_lt_two] at large
    omega

/-- With seventeen digits the grid is finer than half of the last place. -/
theorem grid_fine {significand : Nat} {place magnitude : Int} (canonical : Format.single.Canonical place significand)
    (leads : (10 : ℚ) ^ (magnitude - 1) ≤ 10 * (significand * 2 ^ place)) :
    (10 : ℚ) ^ (magnitude - (16 : Nat) - 1) < 2 ^ place / 2 := by
  have fits := single_fits canonical
  have split_ : (10 : ℚ) ^ (magnitude - (16 : Nat) - 1) * 10 ^ 16 = 10 ^ (magnitude - 1) := by
    rw [← zpow_natCast, ← zpow_add₀ (by norm_num)]
    congr 1
    push_cast
    ring
  rw [← split_] at leads
  have unit : (0 : ℚ) < 2 ^ place := by positivity
  generalize (10 : ℚ) ^ (magnitude - (16 : Nat) - 1) = step at leads ⊢
  linarith

/-- The search hits by the seventeenth digit. -/
theorem exists_hit {significand : Nat} {place : Int} (tie : Tie)
    (canonical : Format.single.Canonical place significand)
    (finite : Format.single.wordOf place significand < Format.single.infinityWord) {magnitude : Int}
    (leads : (10 : ℚ) ^ (magnitude - 1) ≤ 10 * (significand * 2 ^ place)) (least : -50 ≤ magnitude)
    (most : magnitude ≤ 50) : ∃ decimal, ((List.range mostDigits).findSome? fun (count : Nat) =>
      onGrid .single tie (Format.single.wordOf place significand) (Ratio.ofBinary significand place)
        (magnitude - count - 1)) = some decimal := by
  have above := readsBack_above canonical finite (grid_fine canonical leads) (by push_cast; omega) (by push_cast; omega)
  have hit : (onGrid .single tie (Format.single.wordOf place significand) (Ratio.ofBinary significand place)
      (magnitude - (16 : Nat) - 1)).isSome := by
    simp only [onGrid, above]
    cases readsBack _ _ _ <;> rfl
  exact Option.isSome_iff_exists.mp (List.findSome?_isSome_iff.mpr ⟨16, by decide, hit⟩)

/-- The shortest decimal of a positive single is rounded to it. -/
theorem shortest_rounds {significand : Nat} {place : Int} (tie : Tie)
    (canonical : Format.single.Canonical place significand) (filled : 0 < significand)
    (finite : Format.single.wordOf place significand < Format.single.infinityWord) :
    ∃ numerator denominator : Nat, 0 < denominator ∧
      (numerator : ℚ) / denominator =
        (shortest .single tie (Format.single.wordOf place significand) significand place).value ∧
      Format.single.nearestMagnitude numerator denominator = Format.single.wordOf place significand := by
  have value := value_ofBinary significand place
  have positive := numerator_ofBinary_pos filled place
  have positive' := denominator_ofBinary_pos significand place
  obtain ⟨low, high⟩ := floorLog2_single positive positive' canonical filled finite value
  obtain ⟨leads, least, most⟩ := ten_zpow_magnitude_le positive positive' low high
  rw [value] at leads
  obtain ⟨decimal, hit⟩ := exists_hit tie canonical finite leads least most
  obtain ⟨count, tried, grid⟩ := List.exists_of_findSome?_eq_some hit
  obtain ⟨exponent, reads⟩ := readsBack_of_onGrid grid
  have few : count < 17 := List.mem_range.mp tried
  obtain ⟨numerator, denominator, positive', quotient, nearest⟩ :=
    exists_of_readsBack (by omega) (by omega) reads
  refine ⟨numerator, denominator, positive', ?_, nearest⟩
  simp only [shortest, hit]
  rw [value_trimmed, quotient]

end Decimal

end TouchTracking
