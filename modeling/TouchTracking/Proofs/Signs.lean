import TouchTracking.Binary.Double

/-! The sign of an integer survives its way into floating point: whatever is lost to rounding, a negative integer
stays below zero. -/
namespace TouchTracking.Binary

namespace Format

theorem nearestMagnitude_le (format : Format) (numerator denominator : Nat) :
    format.nearestMagnitude numerator denominator ≤ format.infinityWord := by
  unfold nearestMagnitude
  split
  · exact Nat.zero_le _
  · exact Nat.min_le_right ..

theorem floorLog2_ge (numerator : Nat) : -1 ≤ floorLog2 numerator 1 := by
  have one : Nat.log2 1 = 0 := by decide
  unfold floorLog2
  simp only [one]
  split <;> omega

/-- An integer is far above the smallest magnitudes, so none is rounded to zero. -/
theorem nearestMagnitude_pos {numerator : Nat} (positive : 0 < numerator) :
    0 < double.nearestMagnitude numerator 1 := by
  have low := floorLog2_ge numerator
  have lowest : double.lowestPlace = -1074 := by decide
  have bits : double.fractionBits = 52 := rfl
  have infinite : 0 < double.infinityWord := by decide
  unfold nearestMagnitude
  rw [if_neg (Nat.ne_of_gt positive)]
  refine Nat.lt_min.mpr ⟨Nat.add_pos_left ?_ _, infinite⟩
  rw [Nat.shiftLeft_eq, lowest, bits]
  refine Nat.mul_pos ?_ (Nat.two_pow_pos _)
  omega

inductive Below : Number → Prop
  | infinite : Below (.infinite true)
  | finite {significand : Nat} {exponent : Int} (positive : 0 < significand) :
      Below (.finite true significand exponent)

theorem below_decode {magnitude : Nat} (positive : 0 < magnitude) (finite : magnitude ≤ double.infinityWord) :
    Below (double.decode (double.signBit + magnitude)) := by
  have room : double.infinityWord < double.signBit := by decide
  have rest : (double.signBit + magnitude) % double.signBit = magnitude := by
    rw [Nat.add_mod_left, Nat.mod_eq_of_lt (Nat.lt_of_le_of_lt finite room)]
  have negative : decide (double.signBit ≤ double.signBit + magnitude) = true :=
    decide_eq_true (Nat.le_add_right ..)
  unfold decode
  simp only [rest, negative]
  rw [if_neg (Nat.not_lt.mpr finite)]
  split
  next => exact .infinite
  next =>
    split
    next subnormal =>
      have small : magnitude < 1 <<< double.fractionBits := by
        rw [Nat.shiftRight_eq_div_pow] at subnormal
        rw [Nat.one_shiftLeft]
        exact (Nat.div_eq_zero_iff.mp subnormal).resolve_left (Nat.ne_of_gt (Nat.two_pow_pos _))
      refine .finite ?_
      rw [Nat.mod_eq_of_lt small]
      exact positive
    next => exact .finite (Nat.add_pos_left (by decide) _)

theorem Below.lt_zero {number : Number} (below : Below number) (exponent : Int) :
    number.lt (.finite false 0 exponent) = true := by
  cases below with
  | infinite => rfl
  | @finite significand other positive =>
    have size : 0 < significand <<< (other - min other exponent).toNat := by
      rw [Nat.shiftLeft_eq]
      exact Nat.mul_pos positive (Nat.two_pow_pos _)
    have order : units true significand other (min other exponent) <
        units false 0 exponent (min other exponent) := by
      simp only [units, Nat.zero_shiftLeft]
      simp only [if_true, Bool.false_eq_true, if_false]
      omega
    simp only [Number.lt, Number.compare?, Int.compare_eq_lt.mpr order, BEq.rfl]

end Format

namespace Double

theorem lt_of_neg {n : Int} (negative : n < 0) : (ofInt n).lt (ofInt 0) = true := by
  have zero : (ofInt 0).number = .finite false 0 Format.double.lowestPlace := by decide
  have positive : 0 < Format.double.nearestMagnitude n.natAbs 1 :=
    Format.nearestMagnitude_pos (Int.natAbs_pos.mpr (Int.ne_of_lt negative))
  have finite := Format.nearestMagnitude_le Format.double n.natAbs 1
  have word : (ofInt n).word.toNat = Format.double.signBit + Format.double.nearestMagnitude n.natAbs 1 := by
    have room : Format.double.signBit + Format.double.infinityWord < UInt64.size := by decide
    simp only [ofInt, ofWord, Format.ofInt, Format.ofRatio, Format.signed, decide_eq_true negative, if_true]
    exact UInt64.toNat_ofNat_of_lt' (Nat.lt_of_le_of_lt (Nat.add_le_add_left finite _) room)
  rw [lt, zero, number, word]
  exact (Format.below_decode positive finite).lt_zero _

end Double

end TouchTracking.Binary
