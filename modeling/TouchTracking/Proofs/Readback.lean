import Mathlib.Data.List.TakeWhile
import TouchTracking.Decimal.Numeral
import TouchTracking.Proofs.Decimals
import TouchTracking.Proofs.Spelling

/-! Decimals read back from their texts. Whichever way a number is written, with zeros, with a point among its digits
or with a power of ten, the text is read as the decimal it was written from. So the text of a finite single tells its
sign and its word. -/
namespace TouchTracking

namespace Binary.Format

/-- The word holds a number that is neither infinite nor a NaN. -/
def Finite (format : Format) (word : Nat) : Prop := word % format.signBit < format.infinityWord

instance (format : Format) (word : Nat) : Decidable (format.Finite word) := Nat.decLt _ _

theorem decode_finite {format : Format} {word : Nat} (finite : format.Finite word) :
    ∃ place significand, format.Canonical place significand ∧
      format.wordOf place significand = word % format.signBit ∧
      format.decode word = .finite (decide (format.signBit ≤ word)) significand place := by
  obtain ⟨place, significand, canonical, word_⟩ := format.exists_canonical (word % format.signBit)
  refine ⟨place, significand, canonical, word_, ?_⟩
  have finite : word % format.signBit < format.infinityWord := finite
  have unsigned := decode_wordOf canonical (word_ ▸ finite)
  rw [word_] at unsigned
  simp only [decode, Nat.mod_mod, if_neg (Nat.not_lt.mpr finite.le), if_neg finite.ne] at unsigned ⊢
  split at unsigned <;> obtain ⟨-, rfl, rfl⟩ := Number.finite.inj unsigned
  next bottom => rw [if_pos bottom]
  next raised => rw [if_neg raised]

theorem Canonical.wordOf_zero {format : Format} {place : Int} (canonical : format.Canonical place 0) :
    format.wordOf place 0 = 0 := by
  have lowest := canonical.lowest
  have bottom : place = format.lowestPlace := by
    by_contra raised
    exact absurd (canonical.filled (by omega)) (Nat.not_le.mpr (Nat.two_pow_pos _))
  rw [wordOf, bottom, Int.sub_self, Int.toNat_zero, Nat.zero_mul]

/-- A number that is not finite has no digits. -/
theorem decode_of_not_finite {format : Format} {word : Nat} (wild : ¬ format.Finite word) :
    format.decode word = .nan ∨ ∃ negative, format.decode word = .infinite negative := by
  have wild : format.infinityWord ≤ word % format.signBit := Nat.le_of_not_lt wild
  simp only [decode]
  rcases Nat.eq_or_lt_of_le wild with infinite | nan
  · exact .inr ⟨_, by rw [if_neg (by omega), if_pos infinite.symm]⟩
  · exact .inl (if_pos nan)

end Binary.Format

namespace Decimal

open Binary (Format Single)

/-- The decimal that is written as digits, with a point among them perhaps, and a power of ten. -/
def readScientific (characters : List Char) : Option Scientific := do
  let (digits, places) ← splitMantissa (characters.takeWhile (!isExponentMark ·))
  let power ← match characters.dropWhile (!isExponentMark ·) with
    | [] => some 0
    | _ :: exponent => readExponent exponent
  return ⟨digitsValue digits, power - places⟩

/-- A magnitude is read as its decimal, which is then rounded. -/
theorem readMagnitude_eq (negative : Bool) (characters : List Char) : readMagnitude negative characters =
    (readScientific characters).map fun decimal => .ofDecimal negative decimal.digits decimal.exponent := by
  unfold readMagnitude readScientific
  simp only [Option.bind_eq_bind]
  cases splitMantissa (characters.takeWhile (!isExponentMark ·)) with
  | none => rfl
  | some mantissa =>
    simp only [Option.bind_some]
    cases characters.dropWhile (!isExponentMark ·) with
    | nil => rfl
    | cons mark exponent =>
      simp only
      cases readExponent exponent <;> rfl

def Numeric (characters : List Char) : Prop := ∀ c ∈ characters, c.isDigit = true

section Texts

variable {whole fraction digits : List Char}

theorem Numeric.append (numeric : Numeric whole) (numeric' : Numeric fraction) : Numeric (whole ++ fraction) :=
  fun c member => (List.mem_append.mp member).elim (numeric c) (numeric' c)

theorem numeric_zeros (count : Nat) : Numeric (List.replicate count '0') := by
  intro c member
  rw [List.eq_of_mem_replicate member]
  rfl

theorem digitsValue_append (first second : List Char) :
    digitsValue (first ++ second) = digitsValue first * 10 ^ second.length + digitsValue second := by
  have shifted (start : Nat) : second.foldl (fun value c => 10 * value + digitValue c) start =
      start * 10 ^ second.length + digitsValue second := by
    unfold digitsValue
    induction second generalizing start with
    | nil => simp
    | cons c rest ih =>
      rw [List.foldl_cons, List.foldl_cons, ih, ih (10 * 0 + digitValue c), List.length_cons, Nat.pow_succ]
      ring
  rw [digitsValue, List.foldl_append, shifted]
  rfl

theorem digitsValue_zeros (count : Nat) : digitsValue (List.replicate count '0') = 0 := by
  induction count with
  | zero => rfl
  | succ count ih => rw [List.replicate_succ', digitsValue_append, ih]; rfl

theorem span_digits (numeric : Numeric whole) (rest : List Char) (stop : ∀ c ∈ rest.head?, c.isDigit = false) :
    (whole ++ rest).takeWhile Char.isDigit = whole ∧ (whole ++ rest).dropWhile Char.isDigit = rest := by
  rw [List.takeWhile_append_of_pos numeric, List.dropWhile_append_of_pos numeric]
  cases rest with
  | nil => simp
  | cons c rest =>
    have off : c.isDigit = false := stop c rfl
    simp [off]

theorem splitMantissa_point (numeric : Numeric whole) (numeric' : Numeric fraction) (some_ : whole ≠ []) :
    splitMantissa (whole ++ '.' :: fraction) = some (whole ++ fraction, fraction.length) := by
  obtain ⟨taken, left⟩ := span_digits numeric ('.' :: fraction) (by simp)
  have all : fraction.all Char.isDigit = true := List.all_eq_true.mpr numeric'
  simp only [splitMantissa, taken, left]
  rw [if_pos ⟨all, .inl some_⟩]

theorem splitMantissa_whole (numeric : Numeric whole) (some_ : whole ≠ []) :
    splitMantissa whole = some (whole, 0) := by
  obtain ⟨taken, left⟩ := span_digits numeric [] (by simp)
  rw [List.append_nil] at taken left
  simp only [splitMantissa, taken, left]
  rw [if_neg some_]

theorem isExponentMark_of_isDigit {c : Char} (digit : c.isDigit = true) : isExponentMark c = false := by
  rw [isExponentMark, Bool.or_eq_false_iff, beq_eq_false_iff_ne, beq_eq_false_iff_ne]
  constructor <;> rintro rfl <;> cases digit

theorem unmarked_point (numeric : Numeric whole) (numeric' : Numeric fraction) :
    ∀ c ∈ whole ++ '.' :: fraction, isExponentMark c = false := by
  intro c member
  rcases List.mem_append.mp member with digit | member
  · exact isExponentMark_of_isDigit (numeric c digit)
  · rcases List.mem_cons.mp member with rfl | digit
    · decide
    · exact isExponentMark_of_isDigit (numeric' c digit)

theorem readScientific_plain {characters : List Char} {places : Nat}
    (unmarked : ∀ c ∈ characters, isExponentMark c = false)
    (mantissa : splitMantissa characters = some (digits, places)) :
    readScientific characters = some ⟨digitsValue digits, 0 - places⟩ := by
  have unmarked : ∀ c ∈ characters, (!isExponentMark c) = true := fun c member => by rw [unmarked c member]; rfl
  have taken : characters.takeWhile (!isExponentMark ·) = characters := List.takeWhile_eq_self_iff.mpr unmarked
  have left : characters.dropWhile (!isExponentMark ·) = [] := List.dropWhile_eq_nil_iff.mpr unmarked
  simp only [readScientific, taken, left, mantissa]
  rfl

theorem readScientific_marked {mantissa power : List Char} {places : Nat} {exponent : Int}
    (unmarked : ∀ c ∈ mantissa, isExponentMark c = false) (split_ : splitMantissa mantissa = some (digits, places))
    (read : readExponent power = some exponent) :
    readScientific (mantissa ++ 'e' :: power) = some ⟨digitsValue digits, exponent - places⟩ := by
  have unmarked : ∀ c ∈ mantissa, (!isExponentMark c) = true := fun c member => by rw [unmarked c member]; rfl
  have taken : (mantissa ++ 'e' :: power).takeWhile (!isExponentMark ·) = mantissa := by
    rw [List.takeWhile_append_of_pos unmarked]
    exact List.append_nil _
  have left : (mantissa ++ 'e' :: power).dropWhile (!isExponentMark ·) = 'e' :: power := by
    rw [List.dropWhile_append_of_pos unmarked]
    rfl
  simp only [readScientific, taken, left, split_, read]
  rfl

/-- The number comes back from a text without a power of ten. -/
theorem exists_readScientific_point (numeric : Numeric whole) (numeric' : Numeric fraction) (some_ : whole ≠ []) :
    ∃ read, readScientific (whole ++ '.' :: fraction) = some read ∧
      read.value = digitsValue (whole ++ fraction) * 10 ^ (-(fraction.length : Int)) := by
  have mantissa := splitMantissa_point numeric numeric' some_
  refine ⟨_, readScientific_plain (unmarked_point numeric numeric') mantissa, ?_⟩
  rw [Scientific.value, Int.zero_sub]

variable {row : List Char}

/-- Zeros stand between the digits and the point. -/
theorem exists_readScientific_whole (numeric : Numeric row) (some_ : row ≠ []) (count : Nat) :
    ∃ read, readScientific (row ++ List.replicate count '0' ++ ['.', '0']) = some read ∧
      read.value = digitsValue row * 10 ^ (count : Int) := by
  have padded : row ++ List.replicate count '0' ≠ [] := List.append_ne_nil_of_left_ne_nil some_ _
  obtain ⟨read, reads, value⟩ :=
    exists_readScientific_point (numeric.append (numeric_zeros count)) (numeric_zeros 1) padded
  refine ⟨read, reads, ?_⟩
  rw [value, digitsValue_append, digitsValue_append, digitsValue_zeros count, digitsValue_zeros 1]
  simp only [List.length_replicate, zpow_natCast]
  push_cast
  norm_num
  ring

/-- Zeros stand between the point and the digits. -/
theorem exists_readScientific_fraction (numeric : Numeric row) {places : Nat} (low : row.length ≤ places) :
    ∃ read, readScientific ('0' :: '.' :: (List.replicate (places - row.length) '0' ++ row)) = some read ∧
      read.value = digitsValue row * 10 ^ (-(places : Int)) := by
  obtain ⟨read, reads, value⟩ := exists_readScientific_point (numeric_zeros 1)
    ((numeric_zeros (places - row.length)).append numeric) (List.cons_ne_nil _ _)
  have size : (List.replicate (places - row.length) '0' ++ row).length = places := by
    rw [List.length_append, List.length_replicate]
    omega
  refine ⟨read, reads, ?_⟩
  rw [value, digitsValue_append, digitsValue_append, digitsValue_zeros 1, digitsValue_zeros, size, Nat.zero_mul,
    Nat.zero_mul, Nat.zero_add, Nat.zero_add]

/-- The point stands among the digits. -/
theorem exists_readScientific_among (numeric : Numeric row) {places : Nat} (high : places < row.length) :
    ∃ read, readScientific (row.take (row.length - places) ++ '.' :: row.drop (row.length - places)) = some read ∧
      read.value = digitsValue row * 10 ^ (-(places : Int)) := by
  have front : Numeric (row.take (row.length - places)) := fun c member => numeric c (List.mem_of_mem_take member)
  have back : Numeric (row.drop (row.length - places)) := fun c member => numeric c (List.mem_of_mem_drop member)
  have some_ : row.take (row.length - places) ≠ [] := by
    rw [List.ne_nil_iff_length_pos, List.length_take]
    omega
  obtain ⟨read, reads, value⟩ := exists_readScientific_point front back some_
  have size : (row.drop (row.length - places)).length = places := by
    rw [List.length_drop]
    omega
  refine ⟨read, reads, ?_⟩
  rw [value, List.take_append_drop, size]

end Texts

variable (decimal : Scientific)

/-- The row of digits that a number is written as. -/
theorem exists_row (n : Nat) : ∃ row, (digitText n).toList = row ∧ (digitText n).length = row.length ∧
    Numeric row ∧ row ≠ [] ∧ digitsValue row = n := by
  have digits : (digitText n).toList = Nat.toDigits 10 n := Nat.toList_repr
  refine ⟨_, digits, ?_, fun _ => isDigit_of_mem, Nat.toDigits_ne_nil, digitsValue_toDigits n⟩
  rw [← String.length_toList, digits]

theorem exists_readScientific_positional :
    ∃ read, readScientific (positionalText ".0" decimal).toList = some read ∧ read.value = decimal.value := by
  obtain ⟨row, digits, length, numeric, some_, back⟩ := exists_row decimal.digits
  rw [Scientific.value, ← back]
  simp only [positionalText, length]
  generalize digitText decimal.digits = text at digits ⊢
  split
  next up =>
    obtain ⟨count, exponent⟩ := Int.eq_ofNat_of_zero_le up
    have shape : (text ++ zeros decimal.exponent.toNat ++ ".0").toList =
        row ++ List.replicate count '0' ++ ['.', '0'] := by
      simp [zeros, digits, exponent]
    rw [shape, exponent]
    exact exists_readScientific_whole numeric some_ count
  next down =>
    obtain ⟨places, exponent⟩ : ∃ places : Nat, decimal.exponent = -places := ⟨decimal.exponent.natAbs, by omega⟩
    rw [exponent]
    split
    next low =>
      have count : (-((row.length : Int) + -places)).toNat = places - row.length := by omega
      have shape : ("0." ++ zeros (places - row.length) ++ text).toList =
          '0' :: '.' :: (List.replicate (places - row.length) '0' ++ row) := by
        simp [zeros, digits]
      rw [count, shape]
      exact exists_readScientific_fraction numeric (by omega)
    next high =>
      have point : ((row.length : Int) + -places).toNat = row.length - places := by omega
      have shape : (String.ofList (row.take (row.length - places)) ++ "." ++
          String.ofList (row.drop (row.length - places))).toList =
          row.take (row.length - places) ++ '.' :: row.drop (row.length - places) := by
        simp
      rw [digits, point, shape]
      exact exists_readScientific_among numeric (by omega)

theorem readExponent_signed (power : Int) :
    readExponent ((if power < 0 then "-" else "+").toList ++ Nat.toDigits 10 power.natAbs) = some power := by
  have read := readDigits_toDigits power.natAbs
  by_cases negative : power < 0
  · have size : -(power.natAbs : Int) = power := by omega
    simp only [readExponent, splitSign, if_pos negative, String.reduceToList, List.cons_append, List.nil_append, read,
      Option.map_some, size]
  · have size : (power.natAbs : Int) = power := by omega
    simp [readExponent, splitSign, negative, read, size]

theorem exists_readScientific_exponent :
    ∃ read, readScientific (exponentText decimal).toList = some read ∧ read.value = decimal.value := by
  obtain ⟨row, digits, length, numeric, some_, back⟩ := exists_row decimal.digits
  simp only [exponentText, length]
  generalize digitText decimal.digits = text at digits ⊢
  have power := readExponent_signed ((row.length : Int) - 1 + decimal.exponent)
  match row with
  | [first] =>
    have unmarked : ∀ c ∈ [first], isExponentMark c = false :=
      fun c member => isExponentMark_of_isDigit (numeric c member)
    have read := readScientific_marked unmarked (splitMantissa_whole numeric some_) power
    simp only [digits, toString, String.toList_append, Nat.toList_repr] at read ⊢
    refine ⟨_, read, ?_⟩
    simp [Scientific.value, back]
  | first :: second :: rest =>
    have lead : Numeric [first] := fun c member => List.mem_singleton.mp member ▸ numeric first List.mem_cons_self
    have tail : Numeric (second :: rest) := fun c member => numeric c (List.mem_cons_of_mem _ member)
    have read := readScientific_marked (unmarked_point lead tail)
      (splitMantissa_point lead tail (List.cons_ne_nil _ _)) power
    simp only [digits, toString, String.toList_append, String.toList_ofList, Nat.toList_repr,
      List.append_assoc] at read ⊢
    refine ⟨_, read, ?_⟩
    simp [Scientific.value, back]

theorem Layout.exists_readScientific_magnitude {layout : Layout} (mark : layout.wholeMark = ".0") :
    ∃ read, readScientific (layout.magnitudeText decimal).toList = some read ∧ read.value = decimal.value := by
  have positional := exists_readScientific_positional decimal
  unfold Layout.magnitudeText
  simp only [mark]
  split
  · exact positional
  · split
    · exact positional
    · exact exists_readScientific_exponent decimal

/-- The characters are a decimal that is rounded to the word. -/
def Reads (format : Format) (characters : List Char) (word : Nat) : Prop :=
  ∃ (decimal : Scientific) (numerator denominator : Nat), readScientific characters = some decimal ∧
    0 < denominator ∧ (numerator : ℚ) / denominator = decimal.value ∧
    format.nearestMagnitude numerator denominator = word

theorem Reads.unique {format : Format} {characters : List Char} {word other : Nat}
    (reads : Reads format characters word) (reads' : Reads format characters other) : word = other := by
  obtain ⟨decimal, numerator, denominator, read, positive, value, rfl⟩ := reads
  obtain ⟨decimal', numerator', denominator', read', positive', value', rfl⟩ := reads'
  obtain rfl := Option.some.inj (read.symm.trans read')
  have same := value.trans value'.symm
  exact Nat.le_antisymm (format.nearestMagnitude_mono positive positive' same.le)
    (format.nearestMagnitude_mono positive' positive same.ge)

/-- No sign stands in front of an unsigned decimal. -/
theorem Reads.splitSign {format : Format} {characters : List Char} {word : Nat}
    (reads : Reads format characters word) : splitSign characters = (false, characters) := by
  obtain ⟨decimal, -, -, read, -⟩ := reads
  unfold Decimal.splitSign
  split
  next => simp [readScientific, splitMantissa, isExponentMark] at read
  next => simp [readScientific, splitMantissa, isExponentMark] at read
  next => rfl

/-- The text of a finite single is its sign and a decimal that is rounded to its word. -/
theorem Layout.write_reads {layout : Layout} {word : Nat} (mark : layout.wholeMark = ".0")
    (finite : Format.single.Finite word) : ∃ characters,
      splitSign (layout.write .single word).toList = (decide (Format.single.signBit ≤ word), characters) ∧
      Reads .single characters (word % Format.single.signBit) := by
  obtain ⟨place, significand, canonical, same, decoded⟩ := Format.decode_finite finite
  have signed {text : String} (reads : Reads .single text.toList (word % Format.single.signBit)) :
      splitSign ((if decide (Format.single.signBit ≤ word) = true then "-" else "") ++ text).toList =
        (decide (Format.single.signBit ≤ word), text.toList) := by
    by_cases negative : Format.single.signBit ≤ word
    · simp [negative, splitSign]
    · simp [negative, reads.splitSign]
  unfold Layout.write
  simp only [decoded]
  rcases Nat.eq_zero_or_pos significand with rfl | filled
  · have zero : Reads .single "0.0".toList (word % Format.single.signBit) := by
      rw [← same, canonical.wordOf_zero]
      exact ⟨⟨0, -1⟩, 0, 1, by decide, Nat.one_pos, by simp [Scientific.value], rfl⟩
    rw [if_pos rfl, String.append_assoc, mark]
    exact ⟨_, signed zero, zero⟩
  · obtain ⟨numerator, denominator, positive, value, nearest⟩ :=
      shortest_rounds layout.tie canonical filled (same ▸ finite)
    obtain ⟨read, back, number⟩ := Layout.exists_readScientific_magnitude
      (shortest .single layout.tie (Format.single.wordOf place significand) significand place) mark
    rw [same] at value nearest back number
    have reads : Reads .single _ _ :=
      ⟨read, numerator, denominator, back, positive, value.trans number.symm, nearest⟩
    rw [if_neg filled.ne']
    exact ⟨_, signed reads, reads⟩

/-- Two singles of one text are the same, if a word stands for one that is not finite. -/
theorem Layout.writeSingle_injective {layout : Layout} (mark : layout.wholeMark = ".0") (nan : layout.nanText = "null")
    (infinity : ∀ negative, layout.infinityText negative = "null") {x y : Single}
    (finite : Format.single.Finite x.word.toNat) (same : layout.writeSingle x = layout.writeSingle y) : x = y := by
  have same : layout.write .single x.word.toNat = layout.write .single y.word.toNat := same
  obtain ⟨characters, text, reads⟩ := layout.write_reads mark finite
  rw [same] at text
  by_cases finite' : Format.single.Finite y.word.toNat
  · obtain ⟨characters', text', reads'⟩ := layout.write_reads mark finite'
    obtain ⟨sign, rfl⟩ := Prod.mk.inj (text.symm.trans text')
    have magnitude := reads.unique reads'
    have sign := decide_eq_decide.mp sign
    have bits : Format.single.signBit = 2 ^ 31 := rfl
    have inside := x.word.toNat_lt
    have inside' := y.word.toNat_lt
    rw [bits] at magnitude sign
    have word : x.word.toNat = y.word.toNat := by omega
    exact congrArg Single.mk (UInt32.toNat_inj.mp word)
  · have wild : layout.write .single y.word.toNat = "null" := by
      unfold Layout.write
      rcases Format.decode_of_not_finite finite' with decoded | ⟨negative, decoded⟩
      · simp only [decoded, nan]
      · simp only [decoded, infinity]
    rw [wild] at text
    obtain ⟨-, rfl⟩ := Prod.mk.inj text
    obtain ⟨decimal, -, -, read, -⟩ := reads
    have none : readScientific "null".toList = none := by decide
    exact absurd (none.symm.trans read) nofun

end Decimal

end TouchTracking
