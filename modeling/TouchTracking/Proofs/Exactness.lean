import Mathlib.Data.EReal.Operations
import TouchTracking.Proofs.Shares

/-! What words denote, exactly: points of the real line with its two ends. A NaN denotes none. Words are compared as
their points are. An integer that is taken to a double stays on its side of every double, and up to `2 ^ 53` it is
not rounded at all. A double passes the test for integers exactly if its point is one. -/
namespace TouchTracking.Binary

namespace Number

/-- The point of a number; a NaN has none. -/
noncomputable def value? : Number → Option EReal
  | .nan => none
  | .infinite negative => some (if negative then ⊥ else ⊤)
  | .finite negative significand exponent => some ((rational negative significand exponent : ℝ) : EReal)

variable {number other : Number} {x y : EReal}

theorem value?_eq_none_iff : number.value? = none ↔ number = .nan := by
  cases number <;> simp [value?]

theorem lt_iff (at_x : number.value? = some x) (at_y : other.value? = some y) : number.lt other = true ↔ x < y := by
  cases number with
  | nan => cases at_x
  | infinite negative =>
    cases other with
    | nan => cases at_y
    | infinite negative' =>
      cases at_x
      cases at_y
      cases negative <;> cases negative' <;> simp [lt, compare?]
      rfl
    | finite =>
      cases at_x
      cases at_y
      cases negative <;> simp [lt, compare?]
  | finite negative significand exponent =>
    cases other with
    | nan => cases at_y
    | infinite negative' =>
      cases at_x
      cases at_y
      cases negative' <;> simp [lt, compare?]
    | finite negative' significand' exponent' =>
      cases at_x
      cases at_y
      rw [lt_finite_iff, EReal.coe_lt_coe_iff, Rat.cast_lt]

/-- A number is not below another exactly if its point is not; what is not a number is not below anything. -/
theorem lt_eq_false_iff : number.lt other = false ↔ ∀ x ∈ number.value?, ∀ y ∈ other.value?, y ≤ x := by
  cases at_x : number.value? with
  | none =>
    obtain rfl := value?_eq_none_iff.mp at_x
    simp [lt, compare?]
  | some x =>
    cases at_y : other.value? with
    | none =>
      obtain rfl := value?_eq_none_iff.mp at_y
      cases number <;> simp [lt, compare?]
    | some y => simp [← Bool.not_eq_true, lt_iff at_x at_y]

/-- A finite number without a fraction is the integer that is left when the fraction is dropped. -/
theorem rational_eq_truncated {negative : Bool} {significand : Nat} {exponent : Int}
    (integral : significand % (1 <<< (-exponent).toNat) = 0) :
    rational negative significand exponent = (truncated negative significand exponent : ℚ) := by
  have size : (significand : ℚ) * 2 ^ exponent =
      ((significand <<< exponent.toNat) >>> (-exponent).toNat : Nat) := by
    rcases Int.le_total 0 exponent with up | down
    · obtain ⟨count, rfl⟩ := Int.eq_ofNat_of_zero_le up
      have none : (-(count : Int)).toNat = 0 := by omega
      simp [none, Nat.shiftLeft_eq]
    · obtain ⟨count, same⟩ := Int.eq_ofNat_of_zero_le (Int.neg_nonneg_of_nonpos down)
      obtain rfl : exponent = -(count : Int) := by omega
      have none : (-(count : Int)).toNat = 0 := by omega
      simp only [Int.neg_neg, Int.toNat_natCast, Nat.one_shiftLeft] at integral
      obtain ⟨quotient, rfl⟩ := Nat.dvd_of_mod_eq_zero integral
      simp [none, Nat.shiftRight_eq_div_pow, zpow_neg]
      field_simp
  cases negative <;>
    simp only [rational, truncated, size, if_true, Bool.false_eq_true, if_false, Int.cast_neg, Int.cast_natCast]

/-- The test for integers holds exactly of the points that are integers. -/
theorem isIntegral_iff : number.isIntegral = true ↔ ∃ n : ℤ, number.value? = some ((n : ℝ) : EReal) := by
  constructor
  · intro integral
    cases number with
    | nan | infinite => cases integral
    | finite negative significand exponent =>
      refine ⟨truncated negative significand exponent, ?_⟩
      rw [value?, rational_eq_truncated (beq_iff_eq.mp integral), Rat.cast_intCast]
  · rintro ⟨n, at_n⟩
    cases number with
    | nan => cases at_n
    | infinite negative => cases negative <;> simp [value?] at at_n
    | finite negative significand exponent =>
      have whole : rational negative significand exponent = n := by
        simp only [value?, Option.some.injEq, EReal.coe_eq_coe_iff] at at_n
        exact_mod_cast at_n
      have size : (significand : ℚ) * 2 ^ exponent = n.natAbs := by
        rw [Nat.cast_natAbs, Int.cast_abs, ← whole]
        cases negative <;> simp [rational]
      simp only [isIntegral, beq_iff_eq, Nat.one_shiftLeft]
      rcases Int.le_total 0 exponent with up | down
      · have none : (-exponent).toNat = 0 := by omega
        simp [none, Nat.mod_one]
      · obtain ⟨count, same⟩ := Int.eq_ofNat_of_zero_le (Int.neg_nonneg_of_nonpos down)
        obtain rfl : exponent = -(count : Int) := by omega
        rw [zpow_neg, zpow_natCast, ← div_eq_mul_inv, div_eq_iff (by positivity)] at size
        rw [Int.neg_neg, Int.toNat_natCast, (by exact_mod_cast size : significand = n.natAbs * 2 ^ count)]
        exact Nat.mul_mod_left ..

def saturated (n : Int) : Int := max (-2 ^ 63) (min (2 ^ 63 - 1) n)

theorem saturated_of_fits {n : Int} (least : -2 ^ 63 ≤ n) (below : n < 2 ^ 63) : saturated n = n := by
  simp only [saturated]
  omega

theorem toInt64_of_value {n : ℤ} (at_n : number.value? = some ((n : ℝ) : EReal)) :
    number.toInt64 = saturated n := by
  have integral := isIntegral_iff.mpr ⟨n, at_n⟩
  cases number with
  | nan | infinite => cases integral
  | finite negative significand exponent =>
    rw [value?, rational_eq_truncated (beq_iff_eq.mp integral), Rat.cast_intCast, Option.some.injEq,
      EReal.coe_eq_coe_iff, Int.cast_inj] at at_n
    simp only [toInt64, at_n, saturated]
    norm_num

end Number

namespace Format

variable {format : Format} {word word' : Nat} {x y : EReal}

/-- A word without a sign that is a number, and where it lies. -/
structure Denotes (format : Format) (word : Nat) (x : EReal) : Prop where
  ordered : word ≤ format.infinityWord
  value : (format.decode word).value? = some x

theorem decode_infinityWord (format : Format) : format.decode format.infinityWord = .infinite false := by
  have inside := format.infinityWord_lt_signBit
  simp [decode, Nat.mod_eq_of_lt inside, inside]

/-- Every word up to that of infinity denotes a number; below infinity it is the significand at its place. -/
theorem exists_denotes (ordered : word ≤ format.infinityWord) : ∃ x, format.Denotes word x ∧
    ((word = format.infinityWord ∧ x = ⊤) ∨ ∃ place significand, format.Canonical place significand ∧
      format.wordOf place significand = word ∧ x = ((significand * 2 ^ place : ℚ) : ℝ)) := by
  rcases Nat.eq_or_lt_of_le ordered with rfl | finite
  · refine ⟨⊤, ⟨le_rfl, ?_⟩, .inl ⟨rfl, rfl⟩⟩
    rw [decode_infinityWord]
    rfl
  · obtain ⟨place, significand, canonical, rfl⟩ := format.exists_canonical word
    refine ⟨_, ⟨ordered, ?_⟩, .inr ⟨place, significand, canonical, rfl, rfl⟩⟩
    rw [decode_wordOf canonical finite]
    rfl

theorem Denotes.cases (denotes : format.Denotes word x) : (word = format.infinityWord ∧ x = ⊤) ∨
    ∃ place significand, format.Canonical place significand ∧ format.wordOf place significand = word ∧
      x = ((significand * 2 ^ place : ℚ) : ℝ) := by
  obtain ⟨other, denotes', shape⟩ := exists_denotes denotes.ordered
  have same := denotes.value.symm.trans denotes'.value
  cases same
  exact shape

theorem Denotes.nonneg (denotes : format.Denotes word x) : 0 ≤ x := by
  rcases denotes.cases with ⟨-, rfl⟩ | ⟨place, significand, -, -, rfl⟩
  · exact le_top
  · exact_mod_cast (by positivity : (0 : ℚ) ≤ significand * 2 ^ place)

/-- A natural number is rounded to no more than a word that is not below it. -/
theorem Denotes.nearestMagnitude_le (denotes : format.Denotes word x) {whole : Nat} (order : (whole : EReal) ≤ x) :
    format.nearestMagnitude whole 1 ≤ word := by
  rcases denotes.cases with ⟨rfl, -⟩ | ⟨place, significand, canonical, rfl, rfl⟩
  · exact format.nearestMagnitude_le ..
  rcases Nat.eq_zero_or_pos whole with rfl | positive
  · simp [nearestMagnitude]
  obtain ⟨place', significand', rounds, rounded⟩ := format.nearestMagnitude_rounds positive Nat.one_pos
  have below := rounds.mono canonical.rounds (by simpa using (by exact_mod_cast order : (whole : ℚ) ≤ _))
  rw [rounded]
  exact (Nat.min_le_left ..).trans below

/-- A natural number is rounded to no less than a word that is not above it. -/
theorem Denotes.le_nearestMagnitude (denotes : format.Denotes word x) {whole : Nat} (order : x ≤ (whole : EReal)) :
    word ≤ format.nearestMagnitude whole 1 := by
  rcases denotes.cases with ⟨-, rfl⟩ | ⟨place, significand, canonical, rfl, rfl⟩
  · exact absurd (top_le_iff.mp order) (EReal.natCast_ne_top _)
  have order : (significand : ℚ) * 2 ^ place ≤ whole := by exact_mod_cast order
  rcases Nat.eq_zero_or_pos whole with rfl | positive
  · have zero : format.Canonical format.lowestPlace 0 :=
      ⟨le_rfl, Nat.two_pow_pos _, fun raised => absurd raised (lt_irrefl _)⟩
    have below := canonical.rounds.mono zero.rounds (by simpa using order)
    have none : format.wordOf format.lowestPlace 0 = 0 := by simp [wordOf]
    exact (none ▸ below).trans (Nat.zero_le _)
  obtain ⟨place', significand', rounds, rounded⟩ := format.nearestMagnitude_rounds positive Nat.one_pos
  have below := canonical.rounds.mono rounds (by simpa using order)
  rw [rounded]
  exact Nat.le_min.mpr ⟨below, denotes.ordered⟩

theorem Denotes.mono (denotes : format.Denotes word x) (denotes' : format.Denotes word' y) (order : word ≤ word') :
    x ≤ y := by
  rcases Nat.eq_or_lt_of_le order with rfl | less
  · cases denotes.value.symm.trans denotes'.value
    exact le_rfl
  rcases denotes'.cases with ⟨-, rfl⟩ | ⟨place', significand', canonical', rfl, rfl⟩
  · exact le_top
  rcases denotes.cases with ⟨rfl, -⟩ | ⟨place, significand, canonical, rfl, rfl⟩
  · exact absurd denotes'.ordered (Nat.not_le.mpr less)
  by_contra above
  have order' : (significand' : ℚ) * 2 ^ place' ≤ significand * 2 ^ place := by
    exact_mod_cast le_of_not_ge above
  exact absurd (canonical'.rounds.mono canonical.rounds order') (Nat.not_le.mpr less)

/-- What a natural number is rounded to. -/
theorem Denotes.rounded_le (denotes : format.Denotes word x) {whole : Nat}
    (rounded : format.Denotes (format.nearestMagnitude whole 1) y) (order : (whole : EReal) ≤ x) : y ≤ x :=
  rounded.mono denotes (denotes.nearestMagnitude_le order)

theorem Denotes.le_rounded (denotes : format.Denotes word x) {whole : Nat}
    (rounded : format.Denotes (format.nearestMagnitude whole 1) y) (order : x ≤ (whole : EReal)) : x ≤ y :=
  denotes.mono rounded (denotes.le_nearestMagnitude order)

theorem value?_decode_negative (inside : word < format.signBit) :
    (format.decode (format.signBit + word)).value? = (format.decode word).value?.map (- ·) := by
  have negative : decide (format.signBit ≤ format.signBit + word) = true := decide_eq_true (Nat.le_add_right ..)
  have positive : decide (format.signBit ≤ word) = false := decide_eq_false (Nat.not_le.mpr inside)
  simp only [decode, Nat.add_mod_left, Nat.mod_eq_of_lt inside, negative, positive]
  split
  · rfl
  split
  · rfl
  split <;> simp [Number.value?, Number.rational]

theorem Denotes.signed (denotes : format.Denotes word x) (negative : Bool) :
    (format.decode (format.signed negative word)).value? = some (if negative then -x else x) := by
  cases negative with
  | false => exact denotes.value
  | true =>
    have inside := denotes.ordered.trans_lt format.infinityWord_lt_signBit
    simp only [Format.signed, if_true]
    rw [value?_decode_negative inside, denotes.value]
    rfl

/-- The point is that of a word without a sign, possibly turned round. -/
def Represents (format : Format) (x : EReal) : Prop :=
  ∃ (word : Nat) (size : EReal), format.Denotes word size ∧ (x = size ∨ x = -size)

theorem Represents.neg (represents : format.Represents x) : format.Represents (-x) := by
  obtain ⟨word, size, denotes, same | turned⟩ := represents
  · exact ⟨word, size, denotes, .inr (congrArg _ same)⟩
  · exact ⟨word, size, denotes, .inl (by rw [turned, neg_neg])⟩

theorem represents_of_value (at_x : (format.decode word).value? = some x)
    (bound : word < format.signBit + format.signBit) : format.Represents x := by
  have unsigned {size : Nat} {y : EReal} (inside : size < format.signBit)
      (at_y : (format.decode size).value? = some y) : format.Denotes size y := by
    refine ⟨Nat.le_of_not_lt fun beyond => ?_, at_y⟩
    simp [decode, Nat.mod_eq_of_lt inside, beyond, Number.value?] at at_y
  by_cases inside : word < format.signBit
  · exact ⟨word, x, unsigned inside at_x, .inl rfl⟩
  · obtain ⟨size, rfl⟩ := Nat.exists_eq_add_of_le (Nat.le_of_not_lt inside)
    have inside : size < format.signBit := Nat.lt_of_add_lt_add_left bound
    rw [value?_decode_negative inside, Option.map_eq_some_iff] at at_x
    obtain ⟨y, at_y, rfl⟩ := at_x
    exact ⟨size, y, unsigned inside at_y, .inr rfl⟩

end Format

namespace Double

variable {n : Int} {bound : Double} {rounded limit : EReal}

theorem number_ofInt (n : Int) : (ofInt n).number =
    Format.double.decode (Format.double.signed (n < 0) (Format.double.nearestMagnitude n.natAbs 1)) := by
  have finite := Format.nearestMagnitude_le Format.double n.natAbs 1
  have room : Format.double.signBit + Format.double.infinityWord < UInt64.size := by decide
  rw [number, ofInt, ofWord, Format.ofInt, Format.ofRatio, UInt64.toNat_ofNat_of_lt']
  unfold Format.signed
  split <;> omega

theorem denotes_zero : Format.double.Denotes 0 0 :=
  ⟨Nat.zero_le _, by
    have zero : Format.double.decode 0 = .finite false 0 Format.double.lowestPlace := by decide
    simp [zero, Number.value?, Number.rational]⟩

theorem exists_ofInt (n : Int) : ∃ size, Format.double.Denotes (Format.double.nearestMagnitude n.natAbs 1) size ∧
    (ofInt n).number.value? = some (if n < 0 then -size else size) := by
  obtain ⟨size, denotes, -⟩ := Format.exists_denotes (Format.nearestMagnitude_le Format.double n.natAbs 1)
  refine ⟨size, denotes, ?_⟩
  rw [number_ofInt, denotes.signed]
  simp

theorem represents (at_limit : bound.number.value? = some limit) : Format.double.Represents limit :=
  Format.represents_of_value at_limit (bound.word.toNat_lt.trans_eq (by decide))

theorem cast_of_nonneg (nonneg : 0 ≤ n) : ((n : ℝ) : EReal) = (n.natAbs : EReal) := by
  obtain ⟨whole, rfl⟩ := Int.eq_ofNat_of_zero_le nonneg
  simp

theorem cast_of_neg (negative : n < 0) : ((n : ℝ) : EReal) = -(n.natAbs : EReal) := by
  obtain ⟨whole, rfl⟩ : ∃ whole : Nat, n = -whole := ⟨n.natAbs, by omega⟩
  simp

theorem ofInt_neg (at_rounded : (ofInt n).number.value? = some rounded) :
    (ofInt (-n)).number.value? = some (-rounded) := by
  obtain ⟨size, denotes, value⟩ := exists_ofInt n
  obtain ⟨size', denotes', value'⟩ := exists_ofInt (-n)
  rw [Int.natAbs_neg] at denotes'
  obtain rfl : size = size' := Option.some.inj (denotes.value.symm.trans denotes'.value)
  cases at_rounded.symm.trans value
  rw [value']
  rcases lt_trichotomy n 0 with below | rfl | above
  · simp [below, below.le]
  · have zero : Format.double.nearestMagnitude (0 : Int).natAbs 1 = 0 := by decide
    obtain rfl : size = 0 := Option.some.inj ((zero ▸ denotes).value.symm.trans denotes_zero.value)
    simp
  · simp [above, above.le]

theorem ofInt_le_of_represents (at_rounded : (ofInt n).number.value? = some rounded)
    (represents : Format.double.Represents limit) (order : ((n : ℝ) : EReal) ≤ limit) : rounded ≤ limit := by
  obtain ⟨size, denotes, value⟩ := exists_ofInt n
  cases at_rounded.symm.trans value
  have nonneg := denotes.nonneg
  by_cases below : n < 0
  · rw [cast_of_neg below] at order
    rw [if_pos below]
    obtain ⟨word, size', denotes', rfl | rfl⟩ := represents
    · exact (EReal.neg_le_zero.mpr nonneg).trans denotes'.nonneg
    · exact EReal.neg_le_neg_iff.mpr (denotes'.le_rounded denotes (EReal.neg_le_neg_iff.mp order))
  · rw [cast_of_nonneg (Int.not_lt.mp below)] at order
    rw [if_neg below]
    obtain ⟨word, size', denotes', rfl | rfl⟩ := represents
    · exact denotes'.rounded_le denotes order
    · -- The limit is not above zero, so the integer is zero and so is what it is rounded to.
      have whole : (0 : EReal) ≤ n.natAbs := by exact_mod_cast Nat.zero_le n.natAbs
      have none : (n.natAbs : EReal) ≤ 0 := order.trans (EReal.neg_le_zero.mpr denotes'.nonneg)
      exact (denotes_zero.rounded_le denotes none).trans (whole.trans order)

theorem ofInt_le (at_rounded : (ofInt n).number.value? = some rounded) (at_limit : bound.number.value? = some limit)
    (order : ((n : ℝ) : EReal) ≤ limit) : rounded ≤ limit :=
  ofInt_le_of_represents at_rounded (represents at_limit) order

theorem le_ofInt (at_rounded : (ofInt n).number.value? = some rounded) (at_limit : bound.number.value? = some limit)
    (order : limit ≤ ((n : ℝ) : EReal)) : limit ≤ rounded := by
  have turned : (((-n : ℤ) : ℝ) : EReal) ≤ -limit := by simpa using EReal.neg_le_neg_iff.mpr order
  have rounded_le := ofInt_le_of_represents (ofInt_neg at_rounded) (represents at_limit).neg turned
  exact EReal.neg_le_neg_iff.mp rounded_le

/-- The significand holds all natural numbers up to `2 ^ 53`. -/
theorem exists_denotes_natCast {whole : Nat} (few : whole ≤ 2 ^ 53) : ∃ word, Format.double.Denotes word whole := by
  rcases Nat.eq_zero_or_pos whole with rfl | positive
  · exact ⟨0, by simpa using denotes_zero⟩
  rcases Nat.eq_or_lt_of_le few with rfl | less
  · have last : Format.double.decode 0x4340000000000000 = .finite false (2 ^ 52) 1 := by decide
    refine ⟨0x4340000000000000, by decide, ?_⟩
    have same : ((2 ^ 52 : Nat) : ℚ) * 2 ^ (1 : Int) = (2 ^ 53 : Nat) := by norm_num
    rw [last]
    simp only [Number.value?, Number.rational, Bool.false_eq_true, if_false, same, Rat.cast_natCast,
      EReal.coe_natCast]
  · obtain ⟨place, significand, canonical, finite, same⟩ :=
      Format.exists_word_of_few Format.double (by decide) (by decide) positive less
    refine ⟨_, finite.le, ?_⟩
    rw [Format.decode_wordOf canonical finite]
    simp [Number.value?, Number.rational, same]

theorem ofInt_exact (few : n.natAbs ≤ 2 ^ 53) : (ofInt n).number.value? = some ((n : ℝ) : EReal) := by
  obtain ⟨size, denotes, value⟩ := exists_ofInt n
  obtain ⟨word, held⟩ := exists_denotes_natCast few
  have same : size = n.natAbs := le_antisymm (held.rounded_le denotes le_rfl) (held.le_rounded denotes le_rfl)
  rw [value, same]
  split
  next below => rw [cast_of_neg below]
  next above => rw [cast_of_nonneg (Int.not_lt.mp above)]

end Double
end TouchTracking.Binary
