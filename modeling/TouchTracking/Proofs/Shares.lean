import Mathlib.Algebra.Order.Field.Power
import Mathlib.Algebra.Order.Field.Rat
import Mathlib.Tactic.FieldSimp
import Mathlib.Tactic.Linarith
import Mathlib.Tactic.Positivity
import Mathlib.Tactic.Ring
import TouchTracking.Proofs.Signs
import TouchTracking.Tracking.Touch

/-! The position of a pixel as a share of the frame. Rounding keeps the order of numbers, so the share of a pixel
of the frame is between zero and one before it is kept there. Extents that the significand can hold are not
rounded at all, and the share is then below one. -/
namespace TouchTracking.Binary

section Rounding

/-- The natural number lies within one half of the number, and is even if exactly one half lies between. -/
structure Nearest (number : ℚ) (rounded : Nat) : Prop where
  above : number ≤ rounded + 1 / 2
  below : (rounded : ℚ) ≤ number + 1 / 2
  tie_above : number = rounded + 1 / 2 → rounded % 2 = 0
  tie_below : (rounded : ℚ) = number + 1 / 2 → rounded % 2 = 0

theorem nearest_nearestEven (numerator : Nat) {denominator : Nat} (positive : 0 < denominator) :
    Nearest (numerator / denominator) (nearestEven numerator denominator) := by
  have division := Nat.div_add_mod numerator denominator
  have remainder := Nat.mod_lt numerator positive
  simp only [nearestEven]
  generalize numerator / denominator = quotient at division ⊢
  generalize numerator % denominator = rest at division remainder ⊢
  have split_ : (numerator : ℚ) / denominator = quotient + rest / denominator := by
    rw [← division]
    push_cast
    field_simp
  have size : (0 : ℚ) < denominator := by exact_mod_cast positive
  have nonneg : (0 : ℚ) ≤ rest / denominator := by positivity
  rw [split_]
  split
  next low =>
    have low : (rest : ℚ) / denominator < 1 / 2 := by
      rw [div_lt_div_iff₀ size two_pos]
      exact_mod_cast (by omega : rest * 2 < 1 * denominator)
    constructor <;> intros <;> linarith
  next =>
    split
    next high =>
      have high : 1 / 2 < (rest : ℚ) / denominator := by
        rw [div_lt_div_iff₀ two_pos size]
        exact_mod_cast (by omega : 1 * denominator < rest * 2)
      have less : (rest : ℚ) / denominator < 1 := by
        rw [div_lt_one size]
        exact_mod_cast remainder
      constructor <;> push_cast <;> intros <;> linarith
    next =>
      have half : (rest : ℚ) / denominator = 1 / 2 := by
        rw [div_eq_div_iff size.ne' two_ne_zero]
        exact_mod_cast (by omega : rest * 2 = 1 * denominator)
      have even : (quotient + quotient % 2) % 2 = 0 := by omega
      rw [half]
      rcases Nat.mod_two_eq_zero_or_one quotient with parity | parity
      all_goals
        rw [parity] at even ⊢
        constructor
        case tie_above | tie_below => exact fun _ => even
        all_goals push_cast; linarith

theorem Nearest.mono {number other : ℚ} {rounded rounded' : Nat} (nearest : Nearest number rounded)
    (nearest' : Nearest other rounded') (order : number ≤ other) : rounded ≤ rounded' := by
  by_contra less
  have next : rounded' + 1 ≤ rounded := Nat.lt_of_not_le less
  have next' : (rounded' : ℚ) + 1 ≤ rounded := by exact_mod_cast next
  have above := nearest'.above
  have below := nearest.below
  have same : rounded = rounded' + 1 := by
    have : (rounded : ℚ) ≤ rounded' + 1 := by linarith
    have : rounded ≤ rounded' + 1 := by exact_mod_cast this
    omega
  have even := nearest.tie_below (by linarith)
  have even' := nearest'.tie_above (by linarith)
  omega

theorem nearest_natCast (whole : Nat) : Nearest whole whole := by
  constructor <;> intros <;> linarith

theorem floorLog2_spec {numerator denominator : Nat} (positive : 0 < numerator) (positive' : 0 < denominator) :
    (2 : ℚ) ^ floorLog2 numerator denominator ≤ numerator / denominator ∧
    (numerator : ℚ) / denominator < 2 ^ (floorLog2 numerator denominator + 1) := by
  have size : (0 : ℚ) < denominator := by exact_mod_cast positive'
  have power (high low : Nat) : (2 : ℚ) ^ ((high : Int) - low) = 2 ^ high / 2 ^ low := by
    rw [zpow_sub₀ two_ne_zero, zpow_natCast, zpow_natCast]
  have le_self := Nat.log2_self_le positive.ne'
  have le_self' := Nat.log2_self_le positive'.ne'
  have lt_self : numerator < 2 ^ (numerator.log2 + 1) := Nat.lt_log2_self
  have lt_self' : denominator < 2 ^ (denominator.log2 + 1) := Nat.lt_log2_self
  simp only [floorLog2, Nat.shiftLeft_eq]
  generalize numerator.log2 = high at *
  generalize denominator.log2 = low at *
  split
  next reached =>
    have next : (high : Int) - low + 1 = ((high + 1 : Nat) : Int) - low := by omega
    rw [next, power, power, div_le_div_iff₀ (by positivity) size, div_lt_div_iff₀ size (by positivity)]
    constructor
    · exact_mod_cast (Nat.mul_comm .. ▸ reached : 2 ^ high * denominator ≤ numerator * 2 ^ low)
    · exact_mod_cast Nat.mul_lt_mul_of_lt_of_le lt_self le_self' positive'
  next short =>
    have next : (high : Int) - low - 1 + 1 = (high : Int) - low := by omega
    have previous : (high : Int) - low - 1 = (high : Int) - ((low + 1 : Nat) : Int) := by omega
    rw [next, previous, power, power, div_le_div_iff₀ (by positivity) size, div_lt_div_iff₀ size (by positivity)]
    constructor
    · exact_mod_cast Nat.mul_le_mul le_self lt_self'.le
    · exact_mod_cast (Nat.mul_comm denominator _ ▸ Nat.lt_of_not_le short :
        numerator * 2 ^ low < 2 ^ high * denominator)

/-- What is split between two factors is a power of two as a whole. -/
theorem shifted (numerator denominator : Nat) (place : Int) :
    ((numerator <<< (-place).toNat : Nat) : ℚ) / (denominator <<< place.toNat : Nat) =
      numerator / denominator * 2 ^ (-place) := by
  simp only [Nat.shiftLeft_eq]
  push_cast
  rcases Int.le_total 0 place with up | down
  · obtain ⟨count, rfl⟩ := Int.eq_ofNat_of_zero_le up
    have none : (-(count : Int)).toNat = 0 := by omega
    rw [none, Int.toNat_natCast, pow_zero, mul_one, zpow_neg, zpow_natCast, div_mul_eq_div_div, div_eq_mul_inv]
  · obtain ⟨count, same⟩ := Int.eq_ofNat_of_zero_le (Int.neg_nonneg_of_nonpos down)
    have none : place.toNat = 0 := by omega
    rw [none, same, Int.toNat_natCast, pow_zero, mul_one, zpow_natCast, div_mul_eq_mul_div]

end Rounding

namespace Format

variable {format : Format} {number other : ℚ} {place place' : Int} {significand significand' : Nat}

/-- How a positive number is rounded: its leading digit is the first of the significand, unless the last digit would
fall below the lowest place. -/
structure Rounds (format : Format) (number : ℚ) (place : Int) (significand : Nat) : Prop where
  lowest : format.lowestPlace ≤ place
  nearest : Nearest (number * 2 ^ (-place)) significand
  fits : number < 2 ^ (place + format.fractionBits + 1)
  leads : format.lowestPlace < place → (2 : ℚ) ^ (place + format.fractionBits) ≤ number

theorem Rounds.room (rounds : format.Rounds number place significand) :
    significand ≤ 2 ^ (format.fractionBits + 1) := by
  refine rounds.nearest.mono (nearest_natCast _) ?_
  have same : (2 : ℚ) ^ (place + format.fractionBits + 1) = 2 ^ (format.fractionBits + 1) * 2 ^ place := by
    rw [← zpow_natCast, ← zpow_add₀ two_ne_zero]
    congr 1
    push_cast
    ring
  have fits := rounds.fits.le
  rw [same] at fits
  rw [zpow_neg, ← div_eq_mul_inv, div_le_iff₀ (by positivity)]
  exact_mod_cast fits

theorem Rounds.filled (rounds : format.Rounds number place significand) (raised : format.lowestPlace < place) :
    2 ^ format.fractionBits ≤ significand := by
  refine (nearest_natCast _).mono rounds.nearest ?_
  have leads := rounds.leads raised
  rw [add_comm, zpow_add₀ two_ne_zero, zpow_natCast] at leads
  rw [zpow_neg, ← div_eq_mul_inv, le_div_iff₀ (by positivity)]
  exact_mod_cast leads

def wordOf (format : Format) (place : Int) (significand : Nat) : Nat :=
  (place - format.lowestPlace).toNat * 2 ^ format.fractionBits + significand

/-- A number that is not smaller is not put on a lower place. -/
theorem Rounds.place_le (rounds : format.Rounds number place significand)
    (rounds' : format.Rounds other place' significand') (order : number ≤ other) : place ≤ place' := by
  have lowest' := rounds'.lowest
  by_contra above
  have leads := rounds.leads (by omega)
  have apart : (2 : ℚ) ^ (place + format.fractionBits) < 2 ^ (place' + format.fractionBits + 1) :=
    (leads.trans order).trans_lt rounds'.fits
  rw [zpow_lt_zpow_iff_right₀ one_lt_two] at apart
  omega

theorem Rounds.mono (rounds : format.Rounds number place significand)
    (rounds' : format.Rounds other place' significand') (order : number ≤ other) :
    format.wordOf place significand ≤ format.wordOf place' significand' := by
  have lowest := rounds.lowest
  have lowest' := rounds'.lowest
  rcases Int.le_iff_eq_or_lt.mp (rounds.place_le rounds' order) with rfl | less
  · refine Nat.add_le_add_left (rounds.nearest.mono rounds'.nearest ?_) _
    exact mul_le_mul_of_nonneg_right order (by positivity)
  · have room := rounds.room
    have filled := rounds'.filled (by omega)
    have steps : (place - format.lowestPlace).toNat + 1 ≤ (place' - format.lowestPlace).toNat := by omega
    have raised := Nat.mul_le_mul_right (2 ^ format.fractionBits) steps
    rw [Nat.add_one_mul] at raised
    rw [Nat.pow_succ] at room
    simp only [wordOf]
    omega

theorem nearestMagnitude_rounds (format : Format) {numerator denominator : Nat} (positive : 0 < numerator)
    (positive' : 0 < denominator) : ∃ place significand,
      format.Rounds (numerator / denominator) place significand ∧
      format.nearestMagnitude numerator denominator =
        min (format.wordOf place significand) format.infinityWord := by
  obtain ⟨at_least, below⟩ := floorLog2_spec positive positive'
  generalize leading : floorLog2 numerator denominator = leadingPlace at at_least below
  obtain ⟨place, chosen⟩ : ∃ place, max (leadingPlace - format.fractionBits) format.lowestPlace = place := ⟨_, rfl⟩
  refine ⟨place, nearestEven (numerator <<< (-place).toNat) (denominator <<< place.toNat), ?rounds, ?word⟩
  case word =>
    simp only [nearestMagnitude, if_neg positive.ne', leading, chosen, wordOf]
    rw [Nat.shiftLeft_eq (place - format.lowestPlace).toNat]
  constructor
  case lowest => exact chosen ▸ Int.le_max_right ..
  case nearest =>
    rw [← shifted]
    refine nearest_nearestEven _ ?_
    rw [Nat.shiftLeft_eq]
    exact Nat.mul_pos positive' (Nat.two_pow_pos _)
  case fits => exact below.trans_le (zpow_le_zpow_right₀ one_lt_two.le (by omega))
  case leads =>
    intro raised
    have same : place + format.fractionBits = leadingPlace := by omega
    rwa [same]

/-- Rounding keeps the order of numbers. -/
theorem nearestMagnitude_mono (format : Format) {numerator denominator numerator' denominator' : Nat}
    (positive : 0 < denominator) (positive' : 0 < denominator')
    (order : (numerator : ℚ) / denominator ≤ numerator' / denominator') :
    format.nearestMagnitude numerator denominator ≤ format.nearestMagnitude numerator' denominator' := by
  rcases Nat.eq_zero_or_pos numerator with rfl | filled
  · simp [nearestMagnitude]
  have size : (0 : ℚ) < numerator' / denominator' :=
    lt_of_lt_of_le (div_pos (by exact_mod_cast filled) (by exact_mod_cast positive)) order
  have filled' : 0 < numerator' := by
    by_contra none
    have none : numerator' = 0 := by omega
    simp [none] at size
  obtain ⟨place, significand, rounds, word⟩ := format.nearestMagnitude_rounds filled positive
  obtain ⟨place', significand', rounds', word'⟩ := format.nearestMagnitude_rounds filled' positive'
  have below := rounds.mono rounds' order
  rw [word, word']
  omega

/-- A significand and its place as words hold them. -/
structure Canonical (format : Format) (place : Int) (significand : Nat) : Prop where
  lowest : format.lowestPlace ≤ place
  room : significand < 2 ^ (format.fractionBits + 1)
  filled : format.lowestPlace < place → 2 ^ format.fractionBits ≤ significand

theorem Canonical.rounds (canonical : format.Canonical place significand) :
    format.Rounds (significand * 2 ^ place) place significand where
  lowest := canonical.lowest
  nearest := by
    have whole : (significand : ℚ) * 2 ^ place * 2 ^ (-place) = significand := by
      rw [mul_assoc, ← zpow_add₀ two_ne_zero, Int.add_right_neg, zpow_zero, mul_one]
    rw [whole]
    exact nearest_natCast significand
  fits := by
    have room : (significand : ℚ) < 2 ^ (format.fractionBits + 1) := by exact_mod_cast canonical.room
    rw [Int.add_assoc, zpow_add₀ two_ne_zero, mul_comm]
    exact mul_lt_mul_of_pos_left (by exact_mod_cast room) (by positivity)
  leads raised := by
    have filled : (2 : ℚ) ^ format.fractionBits ≤ significand := by exact_mod_cast canonical.filled raised
    rw [zpow_add₀ two_ne_zero, mul_comm, zpow_natCast]
    exact mul_le_mul_of_nonneg_right filled (by positivity)

theorem infinityWord_lt_signBit (format : Format) : format.infinityWord < format.signBit := by
  have one_less : 2 ^ format.exponentBits - 1 < 2 ^ format.exponentBits :=
    Nat.sub_lt (Nat.two_pow_pos _) Nat.one_pos
  rw [infinityWord, signBit, Nat.shiftLeft_eq, Nat.one_shiftLeft, Nat.one_shiftLeft, Nat.pow_add, Nat.mul_comm]
  exact Nat.mul_lt_mul_of_pos_left one_less (Nat.two_pow_pos _)

theorem decode_wordOf (canonical : format.Canonical place significand)
    (finite : format.wordOf place significand < format.infinityWord) :
    format.decode (format.wordOf place significand) = .finite false significand place := by
  obtain ⟨lowest, room, filled⟩ := canonical
  have inside := finite.trans (infinityWord_lt_signBit format)
  simp only [decode, Nat.mod_eq_of_lt inside, decide_eq_false (Nat.not_le.mpr inside),
    if_neg (Nat.not_lt.mpr finite.le), if_neg finite.ne, Nat.one_shiftLeft, Nat.shiftRight_eq_div_pow]
  by_cases small : significand < 2 ^ format.fractionBits
  · have bottom : place = format.lowestPlace := by
      by_contra raised
      exact absurd (filled (by omega)) (by omega)
    subst bottom
    simp only [wordOf, Int.sub_self, Int.toNat_zero, Nat.zero_mul, Nat.zero_add, Nat.div_eq_of_lt small,
      Nat.mod_eq_of_lt small, if_true]
  · obtain ⟨fraction, rfl⟩ := Nat.exists_eq_add_of_le (Nat.le_of_not_lt small)
    have below : fraction < 2 ^ format.fractionBits := by
      rw [Nat.pow_succ] at room
      omega
    have word : format.wordOf place (2 ^ format.fractionBits + fraction) =
        2 ^ format.fractionBits * ((place - format.lowestPlace).toNat + 1) + fraction := by
      rw [wordOf]
      ring
    rw [word, Nat.mul_add_div (Nat.two_pow_pos _), Nat.mul_add_mod, Nat.div_eq_of_lt below, Nat.mod_eq_of_lt below,
      if_neg (by omega)]
    congr 1
    omega

theorem exists_canonical (format : Format) (word : Nat) :
    ∃ place significand, format.Canonical place significand ∧ format.wordOf place significand = word := by
  have division := Nat.div_add_mod word (2 ^ format.fractionBits)
  have rest := Nat.mod_lt word (Nat.two_pow_pos format.fractionBits)
  generalize word / 2 ^ format.fractionBits = field at division
  generalize word % 2 ^ format.fractionBits = fraction at division rest
  have twice : 2 ^ (format.fractionBits + 1) = 2 * 2 ^ format.fractionBits := Nat.pow_succ'
  cases field with
  | zero =>
    refine ⟨format.lowestPlace, fraction, ⟨Int.le_refl _, by omega, fun raised => absurd raised (by omega)⟩, ?_⟩
    simpa [wordOf] using division
  | succ count =>
    refine ⟨format.lowestPlace + count, 2 ^ format.fractionBits + fraction,
      ⟨by omega, by omega, fun _ => Nat.le_add_right ..⟩, ?_⟩
    have steps : (format.lowestPlace + count - format.lowestPlace).toNat = count := by omega
    rw [← division, wordOf, steps]
    ring

end Format

namespace Number

/-- The number is finite, not below zero, and of the given size. -/
def Is (number : Number) (size : ℚ) : Prop :=
  ∃ significand exponent, number = .finite false significand exponent ∧ (significand : ℚ) * 2 ^ exponent = size

theorem Is.nonneg {number : Number} {size : ℚ} (is : number.Is size) : 0 ≤ size := by
  obtain ⟨significand, exponent, -, rfl⟩ := is
  positivity

def rational (negative : Bool) (significand : Nat) (exponent : Int) : ℚ :=
  if negative then -(significand * 2 ^ exponent) else significand * 2 ^ exponent

theorem units_mul_zpow (negative : Bool) (significand : Nat) {exponent place : Int} (above : place ≤ exponent) :
    (Format.units negative significand exponent place : ℚ) * 2 ^ place = rational negative significand exponent := by
  obtain ⟨count, rfl⟩ := Int.le.dest above
  have steps : (place + count - place).toNat = count := by omega
  have power : (2 : ℚ) ^ (place + (count : Int)) = 2 ^ count * 2 ^ place := by
    rw [zpow_add₀ two_ne_zero, zpow_natCast, mul_comm]
  simp only [Format.units, rational, steps, Nat.shiftLeft_eq, power]
  cases negative <;> simp [mul_assoc]

/-- Finite numbers are ordered as what they stand for. -/
theorem lt_finite_iff (negative negative' : Bool) (significand significand' : Nat) (exponent exponent' : Int) :
    (finite negative significand exponent).lt (finite negative' significand' exponent') = true ↔
      rational negative significand exponent < rational negative' significand' exponent' := by
  simp only [Number.lt, compare?, beq_iff_eq, Option.some.injEq, Int.compare_eq_lt]
  rw [← units_mul_zpow negative significand (Int.min_le_left exponent exponent'),
    ← units_mul_zpow negative' significand' (Int.min_le_right exponent exponent'),
    mul_lt_mul_iff_left₀ (by positivity), Int.cast_lt]

theorem Is.lt_iff {number other : Number} {size size' : ℚ} (is : number.Is size) (is' : other.Is size') :
    number.lt other = true ↔ size < size' := by
  obtain ⟨significand, exponent, rfl, rfl⟩ := is
  obtain ⟨significand', exponent', rfl, rfl⟩ := is'
  exact lt_finite_iff ..

theorem Is.unique {number : Number} {size size' : ℚ} (is : number.Is size) (is' : number.Is size') : size = size' := by
  obtain ⟨significand, exponent, rfl, rfl⟩ := is
  obtain ⟨_, _, same, rfl⟩ := is'
  cases same
  rfl

end Number

namespace Format

variable {format : Format} {word word' : Nat}

theorem decode_is (finite : word < format.infinityWord) : ∃ place significand,
    format.Canonical place significand ∧ format.wordOf place significand = word ∧
    (format.decode word).Is (significand * 2 ^ place) := by
  obtain ⟨place, significand, canonical, rfl⟩ := format.exists_canonical word
  exact ⟨place, significand, canonical, rfl, significand, place, decode_wordOf canonical finite, rfl⟩

theorem decode_mono {size size' : ℚ} (order : word ≤ word') (finite : word' < format.infinityWord)
    (is : (format.decode word).Is size) (is' : (format.decode word').Is size') : size ≤ size' := by
  obtain ⟨place, significand, canonical, same, holds⟩ := decode_is (order.trans_lt finite)
  obtain ⟨place', significand', canonical', same', holds'⟩ := decode_is finite
  obtain rfl := is.unique holds
  obtain rfl := is'.unique holds'
  by_contra less
  have back := canonical'.rounds.mono canonical.rounds (le_of_not_ge less)
  have equal : word = word' := by omega
  subst equal
  exact less (is.unique is').le

theorem decode_lt {size size' : ℚ} (order : word < word') (finite : word' < format.infinityWord)
    (is : (format.decode word).Is size) (is' : (format.decode word').Is size') : size < size' := by
  obtain ⟨place, significand, canonical, same, holds⟩ := decode_is (order.trans finite)
  obtain ⟨place', significand', canonical', same', holds'⟩ := decode_is finite
  obtain rfl := is.unique holds
  obtain rfl := is'.unique holds'
  by_contra notLess
  have back := canonical'.rounds.mono canonical.rounds (le_of_not_gt notLess)
  omega

/-- Of two significands the smaller falls short of the greater by one part in the range at least. -/
theorem mul_le_of_lt {part whole range : Nat} (less : part < whole) (room : part < range) :
    part * range ≤ (range - 1) * whole := by
  rcases Nat.le_total whole range with few | many
  · calc part * range ≤ (whole - 1) * range := Nat.mul_le_mul_right _ (by omega)
      _ = whole * range - range := Nat.sub_one_mul ..
      _ ≤ whole * range - whole := Nat.sub_le_sub_left few _
      _ = (range - 1) * whole := by rw [Nat.sub_one_mul, Nat.mul_comm]
  · calc part * range ≤ (range - 1) * range := Nat.mul_le_mul_right _ (by omega)
      _ ≤ (range - 1) * whole := Nat.mul_le_mul_left _ many

/-- Between the ratio of two different numbers that words hold and one there is room for a number with the full length
of a significand. -/
theorem Canonical.ratio_le {place place' : Int} {significand significand' : Nat}
    (canonical : format.Canonical place significand) (canonical' : format.Canonical place' significand')
    (less : (significand : ℚ) * 2 ^ place < significand' * 2 ^ place') :
    (significand : ℚ) * 2 ^ place / (significand' * 2 ^ place') ≤
      (2 ^ (format.fractionBits + 1) - 1 : Nat) / (2 ^ (format.fractionBits + 1) : Nat) := by
  have unit (place : Int) : (0 : ℚ) < 2 ^ place := by positivity
  have whole : (0 : ℚ) < significand' * 2 ^ place' := lt_of_le_of_lt (by positivity) less
  have range := Nat.two_pow_pos (format.fractionBits + 1)
  rw [div_le_div_iff₀ whole (by exact_mod_cast range)]
  obtain ⟨steps, rfl⟩ := Int.le.dest (canonical.rounds.place_le canonical'.rounds less.le)
  have raised : (significand' : ℚ) * 2 ^ (place + steps : Int) = (significand' * 2 ^ steps : Nat) * 2 ^ place := by
    rw [zpow_add₀ two_ne_zero, zpow_natCast]
    push_cast
    ring
  rw [raised] at less ⊢
  have less : significand < significand' * 2 ^ steps := by
    exact_mod_cast lt_of_mul_lt_mul_right less (unit place).le
  have bound : (significand : ℚ) * (2 ^ (format.fractionBits + 1) : Nat) ≤
      (2 ^ (format.fractionBits + 1) - 1 : Nat) * (significand' * 2 ^ steps : Nat) := by
    exact_mod_cast mul_le_of_lt less canonical.room
  calc (significand : ℚ) * 2 ^ place * (2 ^ (format.fractionBits + 1) : Nat)
      = significand * (2 ^ (format.fractionBits + 1) : Nat) * 2 ^ place := by ring
    _ ≤ (2 ^ (format.fractionBits + 1) - 1 : Nat) * (significand' * 2 ^ steps : Nat) * 2 ^ place :=
      mul_le_mul_of_nonneg_right bound (unit place).le
    _ = _ := by ring

/-- A number that a word holds is that word's when it is rounded. -/
theorem nearestMagnitude_eq_wordOf {numerator denominator : Nat} {place : Int} {significand : Nat}
    (canonical : format.Canonical place significand)
    (finite : format.wordOf place significand < format.infinityWord) (positive : 0 < numerator)
    (positive' : 0 < denominator) (same : (numerator : ℚ) / denominator = significand * 2 ^ place) :
    format.nearestMagnitude numerator denominator = format.wordOf place significand := by
  obtain ⟨place', significand', rounds, word⟩ := format.nearestMagnitude_rounds positive positive'
  rw [same] at rounds
  have below := rounds.mono canonical.rounds le_rfl
  have above := canonical.rounds.mono rounds le_rfl
  omega

/-- A whole number that the significand can hold is that of a word, if the places reach far enough down. -/
theorem exists_word_of_few (format : Format) (low : format.lowestPlace ≤ -format.fractionBits)
    (high : ((-format.lowestPlace).toNat + 2) * 2 ^ format.fractionBits ≤ format.infinityWord) {whole : Nat}
    (positive : 0 < whole) (few : whole < 2 ^ (format.fractionBits + 1)) : ∃ place significand,
      format.Canonical place significand ∧ format.wordOf place significand < format.infinityWord ∧
      (significand : ℚ) * 2 ^ place = whole := by
  have le_self := Nat.log2_self_le positive.ne'
  have lt_self : whole < 2 ^ (whole.log2 + 1) := Nat.lt_log2_self
  have short : whole.log2 < format.fractionBits + 1 := (Nat.log2_lt positive.ne').mpr few
  generalize whole.log2 = leading at le_self lt_self short
  obtain ⟨rest, spare⟩ := Nat.exists_eq_add_of_le (Nat.le_of_lt_succ short)
  have canonical : format.Canonical (-rest) (whole * 2 ^ rest) := by
    constructor
    case lowest => omega
    case room =>
      rw [spare, Nat.add_right_comm, Nat.pow_add]
      exact Nat.mul_lt_mul_of_pos_right lt_self (Nat.two_pow_pos _)
    case filled =>
      intro _
      rw [spare, Nat.pow_add]
      exact Nat.mul_le_mul_right _ le_self
  refine ⟨-rest, whole * 2 ^ rest, canonical, ?_, ?_⟩
  · have room := canonical.room
    have steps : (-(rest : Int) - format.lowestPlace).toNat ≤ (-format.lowestPlace).toNat := by omega
    have least := Nat.mul_le_mul_right (2 ^ format.fractionBits) steps
    rw [Nat.add_mul] at high
    rw [Nat.pow_succ] at room
    rw [wordOf]
    omega
  · rw [zpow_neg, zpow_natCast, ← div_eq_mul_inv, div_eq_iff (by positivity)]
    push_cast
    rfl

end Format

namespace Single

theorem number_ofWord {word : Nat} (bound : word ≤ Format.single.infinityWord) :
    (ofWord word).number = Format.single.decode word := by
  have room : Format.single.infinityWord < UInt32.size := by decide
  rw [number, ofWord, UInt32.toNat_ofNat_of_lt' (bound.trans_lt room)]

theorem ofInt_eq (whole : Nat) : ofInt whole = ofWord (Format.single.nearestMagnitude whole 1) := by
  have sign : decide ((whole : Int) < 0) = false := decide_eq_false (by omega)
  rw [ofInt, Format.ofInt, Format.ofRatio, Format.signed, sign, Int.natAbs_natCast]
  rfl

theorem number_ofInt (whole : Nat) :
    (ofInt whole).number = Format.single.decode (Format.single.nearestMagnitude whole 1) := by
  rw [ofInt_eq]
  exact number_ofWord (Format.nearestMagnitude_le ..)

/-- The quotient of two numbers is rounded once. -/
theorem number_div {x y : Single} {size size' : ℚ} (is : x.number.Is size) (is' : y.number.Is size')
    (positive : 0 < size') : ∃ numerator denominator : Nat, 0 < denominator ∧
      (numerator : ℚ) / denominator = size / size' ∧
      (x / y).number = Format.single.decode (Format.single.nearestMagnitude numerator denominator) := by
  obtain ⟨significand, exponent, number, rfl⟩ := is
  obtain ⟨significand', exponent', number', rfl⟩ := is'
  have filled : 0 < significand' := by
    by_contra none
    have none : significand' = 0 := by omega
    simp [none] at positive
  refine ⟨significand <<< (exponent - exponent').toNat, significand' <<< (-(exponent - exponent')).toNat, ?_, ?_, ?_⟩
  · rw [Nat.shiftLeft_eq]
    exact Nat.mul_pos filled (Nat.two_pow_pos _)
  · have shift := shifted significand significand' (-(exponent - exponent'))
    rw [Int.neg_neg] at shift
    rw [shift, zpow_sub₀ two_ne_zero]
    field_simp
  · have divided : (x / y).number = (ofWord (Format.single.div x.number y.number)).number := rfl
    rw [divided, number, number', Format.div, if_neg filled.ne']
    exact number_ofWord (Format.nearestMagnitude_le ..)

theorem nearestMagnitude_natCast_mono {whole other : Nat} (order : whole ≤ other) :
    Format.single.nearestMagnitude whole 1 ≤ Format.single.nearestMagnitude other 1 := by
  refine Format.nearestMagnitude_mono _ Nat.one_pos Nat.one_pos ?_
  rw [Nat.cast_one, div_one, div_one]
  exact_mod_cast order

theorem nearestMagnitude_finite {whole : Nat} (bound : whole < 2 ^ 31) :
    Format.single.nearestMagnitude whole 1 < Format.single.infinityWord :=
  (nearestMagnitude_natCast_mono bound.le).trans_lt (by decide +kernel)

theorem exists_ofInt_is {whole : Nat} (bound : whole < 2 ^ 31) : ∃ size, (ofInt whole).number.Is size := by
  rw [number_ofInt]
  obtain ⟨_, _, -, -, is⟩ := Format.decode_is (nearestMagnitude_finite bound)
  exact ⟨_, is⟩

theorem ofInt_mono {part whole : Nat} {size size' : ℚ} (order : part ≤ whole) (bound : whole < 2 ^ 31)
    (is : (ofInt part).number.Is size) (is' : (ofInt whole).number.Is size') : size ≤ size' := by
  rw [number_ofInt] at is is'
  exact Format.decode_mono (nearestMagnitude_natCast_mono order) (nearestMagnitude_finite bound) is is'

theorem ofInt_is {whole : Nat} (bound : whole < 2 ^ 24) : (ofInt whole).number.Is whole := by
  rw [number_ofInt]
  rcases Nat.eq_zero_or_pos whole with rfl | positive
  · exact ⟨0, Format.single.lowestPlace, by decide, by simp⟩
  obtain ⟨place, significand, canonical, finite, exact_⟩ :=
    Format.exists_word_of_few Format.single (by decide) (by decide) positive bound
  rw [Format.nearestMagnitude_eq_wordOf canonical finite positive Nat.one_pos (by rw [exact_, Nat.cast_one, div_one])]
  exact ⟨_, _, Format.decode_wordOf canonical finite, exact_⟩

theorem number_div_self {x : Single} {size : ℚ} (is : x.number.Is size) (positive : 0 < size) :
    (x / x).number.Is 1 := by
  have one : (ofInt (1 : Nat)).number.Is 1 := by exact_mod_cast ofInt_is (by decide : 1 < 2 ^ 24)
  obtain ⟨numerator, denominator, filled, ratio, number⟩ := number_div is is positive
  rw [div_self positive.ne'] at ratio
  have filled' : 0 < numerator := by
    by_contra none
    simp [show numerator = 0 by omega] at ratio
  have unit : ((1 : Nat) : ℚ) / (1 : Nat) = 1 := by norm_num
  have below := Format.nearestMagnitude_mono Format.single filled Nat.one_pos (ratio.trans unit.symm).le
  have above := Format.nearestMagnitude_mono Format.single Nat.one_pos filled (unit.trans ratio.symm).le
  rw [number, Nat.le_antisymm below above, ← number_ofInt]
  exact one

/-- The quotient of a number by a greater one is at most one, and it is less than one unless both have been rounded to
the same number. -/
theorem ofInt_div_ofInt {part whole : Nat} (less : part < whole) (bound : whole < 2 ^ 31) :
    ∃ size, (ofInt part / ofInt whole).number.Is size ∧ size ≤ 1 ∧ (size < 1 ↔ ofInt part ≠ ofInt whole) := by
  have one : (ofInt (1 : Nat)).number.Is 1 := by exact_mod_cast ofInt_is (by decide : 1 < 2 ^ 24)
  obtain ⟨size, is⟩ := exists_ofInt_is (less.trans bound)
  obtain ⟨size', is'⟩ := exists_ofInt_is bound
  have filled : 1 ≤ size' := ofInt_mono (by omega : 1 ≤ whole) bound one is'
  rcases eq_or_ne (ofInt part) (ofInt whole) with same | distinct
  · rw [same]
    exact ⟨1, number_div_self is' (by linarith), le_rfl, by simp⟩
  obtain ⟨numerator, denominator, positive, ratio, number⟩ := number_div is is' (by linarith)
  -- different words hold different numbers, between whose ratio and one there is a number with a full significand
  rw [number_ofInt] at is is'
  have words : Format.single.nearestMagnitude part 1 < Format.single.nearestMagnitude whole 1 := by
    refine lt_of_le_of_ne (nearestMagnitude_natCast_mono less.le) fun same => distinct ?_
    rw [ofInt_eq, ofInt_eq, same]
  have finite := nearestMagnitude_finite bound
  have order := Format.decode_lt words finite is is'
  obtain ⟨place, significand, canonical, -, holds⟩ := Format.decode_is (words.trans finite)
  obtain ⟨place', significand', canonical', -, holds'⟩ := Format.decode_is finite
  obtain rfl := is.unique holds
  obtain rfl := is'.unique holds'
  have last : (Format.single.decode (Format.single.nearestMagnitude (2 ^ 24 - 1) (2 ^ 24))).Is
      ((2 ^ 24 - 1 : Nat) * 2 ^ (-24 : Int)) := ⟨_, _, by decide +kernel, rfl⟩
  have before : Format.single.nearestMagnitude numerator denominator ≤
      Format.single.nearestMagnitude (2 ^ 24 - 1) (2 ^ 24) := by
    refine Format.nearestMagnitude_mono _ positive (by decide) ?_
    rw [ratio]
    exact canonical.ratio_le canonical' order
  have finite_last : Format.single.nearestMagnitude (2 ^ 24 - 1) (2 ^ 24) < Format.single.infinityWord := by
    decide +kernel
  obtain ⟨_, _, -, -, quotient⟩ := Format.decode_is (before.trans_lt finite_last)
  have short : _ < (1 : ℚ) := (Format.decode_mono before finite_last quotient last).trans_lt (by norm_num)
  rw [number]
  exact ⟨_, quotient, short.le, by simp [short, distinct]⟩

end Single

end TouchTracking.Binary

namespace TouchTracking.Touch

open Binary (Single)

/-- The pixel is in the frame by its share alone, before that is kept between zero and one: as a ratio, and as the
quotient that is published. The extents of frames are held in 32 bits with a sign; from `2 ^ 24` on, a pixel and its
extent may be rounded to the same number, and only then the quotient is one. -/
structure Inside (pixel : Int) (extent : Nat) : Prop where
  nonneg : 0 ≤ (pixel : ℚ) / extent
  lt_one : (pixel : ℚ) / extent < 1
  unclamped : share pixel extent = Single.ofInt pixel / Single.ofInt extent
  quotient_lt_one : (Single.ofInt pixel / Single.ofInt extent).lt Single.one = true ↔
    Single.ofInt pixel ≠ Single.ofInt extent
  distinct : extent < 2 ^ 24 → Single.ofInt pixel ≠ Single.ofInt extent

theorem inside_of_lt {pixel : Int} {extent : Nat} (nonneg : 0 ≤ pixel) (less : pixel < extent)
    (bound : extent < 2 ^ 31) : Inside pixel extent := by
  obtain ⟨part, rfl⟩ := Int.eq_ofNat_of_zero_le nonneg
  have less : part < extent := by omega
  have size : (0 : ℚ) < extent := by exact_mod_cast Nat.zero_lt_of_lt less
  have zero : Single.zero.number.Is 0 := ⟨0, Binary.Format.single.lowestPlace, by decide, by simp⟩
  have one : Single.one.number.Is 1 := by exact_mod_cast Single.ofInt_is (by decide : 1 < 2 ^ 24)
  obtain ⟨_, is, le_one, lt_one⟩ := Single.ofInt_div_ofInt less bound
  constructor
  case nonneg =>
    rw [Int.cast_natCast]
    positivity
  case lt_one =>
    rw [Int.cast_natCast, div_lt_one size]
    exact_mod_cast less
  case unclamped =>
    have above : ¬(Single.ofInt part / Single.ofInt extent).lt Single.zero = true :=
      fun below => is.nonneg.not_gt ((is.lt_iff zero).mp below)
    have below : ¬Single.one.lt (Single.ofInt part / Single.ofInt extent) = true :=
      fun above => le_one.not_gt ((one.lt_iff is).mp above)
    rw [share, Single.clamp, if_neg above, if_neg below]
  case quotient_lt_one => exact (is.lt_iff one).trans lt_one
  case distinct =>
    intro few same
    have held := Single.ofInt_is (less.trans few)
    rw [same] at held
    exact less.ne (by exact_mod_cast held.unique (Single.ofInt_is few))

end TouchTracking.Touch
