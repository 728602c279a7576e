import TouchTracking.Proofs.Bounds

/-! Values and their texts. A decimal number is read as the integer it was written from, and the words for truth
values likewise; a text stays as it is, blanks included. So the text of a property can be written back to it. -/
namespace TouchTracking

namespace Text

/-- Nothing is taken from a text without blanks. -/
theorem trim_of_solid {text : String} (solid : ∀ c ∈ text.toList, isBlank c = false) : trim text = text := by
  have kept {characters : List Char} (solid : ∀ c ∈ characters, isBlank c = false) :
      characters.dropWhile isBlank = characters := by
    cases characters with
    | nil => rfl
    | cons c rest => simp [solid c]
  have kept_reversed : text.toList.reverse.dropWhile isBlank = text.toList.reverse := by
    apply kept
    intro c member
    exact solid c (List.mem_reverse.mp member)
  simp [trim, trimmed, kept solid, kept_reversed]

theorem isBlank_of_isDigit {c : Char} (digit : c.isDigit = true) : isBlank c = false := by
  obtain ⟨least, most⟩ : 48 ≤ c.toNat ∧ c.toNat ≤ 57 := by
    simpa [Char.isDigit, UInt32.le_iff_toNat_le] using digit
  simp [isBlank]
  omega

end Text

namespace Decimal

variable {characters : List Char}

theorem digitsValue_toDigits (n : Nat) : digitsValue (Nat.toDigits 10 n) = n :=
  (Nat.ofDigitChars_eq_foldl ..).symm.trans Nat.ofDigitChars_ten_toDigits

theorem readDigits_toDigits (n : Nat) : readDigits (Nat.toDigits 10 n) = some n := by
  have digits : (Nat.toDigits 10 n).all Char.isDigit = true := by
    apply List.all_eq_true.mpr
    intro c member
    exact Nat.isDigit_of_mem_toDigits (by decide) (by decide) member
  simp [readDigits, Nat.toDigits_ne_nil, digits, digitsValue_toDigits]

theorem splitSign_of_digits (digits : ∀ c ∈ characters, c.isDigit = true) :
    splitSign characters = (false, characters) := by
  unfold splitSign
  split
  · exact absurd (digits '-' (List.mem_cons_self ..)) (by decide)
  · exact absurd (digits '+' (List.mem_cons_self ..)) (by decide)
  · rfl

/-- An integer is written as its digits, after a minus sign if it is negative. -/
theorem toList_repr (n : Int) : n.repr.toList =
    if n < 0 then '-' :: Nat.toDigits 10 n.natAbs else Nat.toDigits 10 n.natAbs := by
  rw [Int.repr_eq_if]
  by_cases negative : n < 0
  · have size : (-n).toNat = n.natAbs := by omega
    simp [negative, Int.not_le.mpr negative, size, Nat.toList_repr]
  · have size : n.toNat = n.natAbs := by omega
    simp [negative, Int.not_lt.mp negative, size, Nat.toList_repr]

theorem isDigit_of_mem {n : Nat} {c : Char} (member : c ∈ Nat.toDigits 10 n) : c.isDigit = true :=
  Nat.isDigit_of_mem_toDigits (by decide) (by decide) member

theorem readInteger_repr (n : Int) : readInteger n.repr = some n := by
  by_cases negative : n < 0
  · have size : -(n.natAbs : Int) = n := by omega
    simp only [readInteger, toList_repr, if_pos negative, splitSign, readDigits_toDigits, Option.map_some, size]
  · have size : (n.natAbs : Int) = n := by omega
    have unsigned := splitSign_of_digits fun c (member : c ∈ Nat.toDigits 10 n.natAbs) => isDigit_of_mem member
    simp [readInteger, toList_repr, negative, unsigned, readDigits_toDigits, size]

theorem trim_repr (n : Int) : Text.trim n.repr = n.repr := by
  apply Text.trim_of_solid
  intro c member
  rw [toList_repr] at member
  split at member
  · rcases List.mem_cons.mp member with rfl | digit
    · decide
    · exact Text.isBlank_of_isDigit (isDigit_of_mem digit)
  · exact Text.isBlank_of_isDigit (isDigit_of_mem member)

theorem readInt64_repr {n : Int} (least : -2 ^ 63 ≤ n) (below : n < 2 ^ 63) :
    readInt64 n.repr = some n := by
  have held : -0x8000000000000000 ≤ n ∧ n < 0x8000000000000000 := ⟨by omega, by omega⟩
  simp [readInt64, readInteger_repr, held]

end Decimal

namespace Property

open Binary (Double)

variable {property : Property} {value other : Value}

theorem readBool_boolText (flag : Bool) : readBool (boolText flag) = some flag := by
  cases flag <;> decide +kernel

/-- An integer of the value is one that 64 bits with a sign can hold. -/
def Value.Fits : Value → Prop
  | .int n => -2 ^ 63 ≤ n ∧ n < 2 ^ 63
  | .bool _ | .double _ | .text _ => True

/-- The text of a value is taken for that value again. -/
theorem convert_toText (fits : value.Fits) (exact : value.kind ≠ .double) :
    convert value.kind (.text value.toText) = some value := by
  cases value with
  | bool flag => simp [convert, Value.kind, Value.toText, readBool_boolText]
  | int n => simp [convert, Value.kind, Value.toText, Decimal.trim_repr, Decimal.readInt64_repr fits.1 fits.2]
  | double number => exact absurd rfl exact
  | text text => rfl

/-- Two values of one kind have one text only if they are the same. -/
theorem eq_of_toText (same : value.kind = other.kind) (exact : value.kind ≠ .double) (fits : value.Fits)
    (fits' : other.Fits) (spelled : value.toText = other.toText) : value = other := by
  have back := convert_toText fits exact
  rw [same, spelled, convert_toText fits' (same ▸ exact)] at back
  exact (Option.some.inj back).symm

/-- Writing the text of a property back changes nothing: for a writable property that is not for doubles and whose value
keeps to bounds and choices, over all integers of 64 bits, both truth values and all texts. And no two values of one
such kind have the same text. -/
theorem text_round_trip :
    (∀ property : Property, property.Typed → property.kind ≠ .double → property.value.Fits →
      property.readOnly = false → property.Passes property.value →
      property.set (.text property.value.toText) = .ok property) ∧
    ∀ value other : Value, value.kind = other.kind → value.kind ≠ .double → value.Fits → other.Fits →
      value.toText = other.toText → value = other := by
  constructor
  · intro property typed exact fits writable passes
    have back : convert property.kind (.text property.value.toText) = some property.value := by
      rw [← typed]
      exact convert_toText fits (typed ▸ exact)
    exact (set_eq_ok_of_passes writable back).mpr passes
  · intro value other same exact fits fits' spelled
    exact eq_of_toText same exact fits fits' spelled

/-- The least integer, with itself as minimum, and a choice with blanks around it. -/
theorem text_round_trip_least :
    let least := (ofInt (-2 ^ 63)).withMinimum (Double.ofInt (-2 ^ 63))
    let mode := (ofValue (.text " fast ")).withChoices ["slow", " fast "]
    least.Passes least.value ∧ least.set (.text "-9223372036854775808") = .ok least ∧
      mode.Passes mode.value ∧ mode.set (.text " fast ") = .ok mode ∧
      (Value.int (-1)).toText ≠ (Value.int 1).toText := by
  intro least mode
  have least_passes : least.Passes least.value := allowed_iff.mp (by decide +kernel)
  have mode_passes : mode.Passes mode.value := allowed_iff.mp (by decide +kernel)
  obtain ⟨round_trip, apart⟩ := text_round_trip
  have signed : (Value.int (-1)).toText ≠ (Value.int 1).toText := by
    intro same
    have equal := apart (.int (-1)) (.int 1) rfl (by decide) ⟨by decide, by decide⟩ ⟨by decide, by decide⟩ same
    cases equal
  exact ⟨least_passes, round_trip least rfl (by decide) ⟨by decide, by decide⟩ rfl least_passes, mode_passes,
    round_trip mode rfl (by decide) trivial rfl mode_passes, signed⟩

end Property
end TouchTracking
