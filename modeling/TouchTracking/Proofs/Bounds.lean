import TouchTracking.Proofs.Exactness
import TouchTracking.Proofs.Writes

/-! Bounds and exactness of stored numbers. Bounds are held against the double nearest to a value, so what is stored
keeps to them exactly, but for a NaN, which no bound refuses, and for integers beyond `2 ^ 53` that are rounded onto a
bound. A double is taken for an integer only if it is one, and then stops at the ends of 64 bits. -/
namespace TouchTracking.Property

open Binary (Double Number)

namespace Value

/-- The number that a value is, before any rounding. -/
noncomputable def point? : Value → Option EReal
  | .int n => some ((n : ℝ) : EReal)
  | .double x => x.number.value?
  | .bool _ | .text _ => none

end Value

/-- The number is on the right side of every bound that is a number. -/
structure Within (property : Property) (x : EReal) : Prop where
  low : ∀ minimum ∈ property.minimum, ∀ least ∈ minimum.number.value?, least ≤ x
  high : ∀ maximum ∈ property.maximum, ∀ most ∈ maximum.number.value?, x ≤ most

/-- The values that bounds and choices let through. -/
inductive Passes (property : Property) : Value → Prop
  | within {value : Value} {x : EReal} (exact : value.point? = some x) (within : property.Within x) :
      Passes property value
  | unordered {number : Double} (nan : number.number = .nan) : Passes property (.double number)
  | rounded {n : Int} {nearest : EReal} {bound : Double} (large : 2 ^ 53 < n.natAbs)
      (at_nearest : (Double.ofInt n).number.value? = some nearest) (within : property.Within nearest)
      (bounded : property.minimum = some bound ∨ property.maximum = some bound)
      (onto : bound.number.value? = some nearest) : Passes property (.int n)
  | flag (flag : Bool) : Passes property (.bool flag)
  | listed {text : String} (listed : ∀ choices ∈ property.choices, text ∈ choices) : Passes property (.text text)

variable {property next : Property} {value converted : Value} {x : EReal} {number : Double} {n : Int}

/-- Bounds are held against the number that is compared with them; a NaN keeps to them all. -/
theorem violation_eq_none_iff (at_number : value.toNumber? = some number) :
    property.violation value = none ↔ ∀ x ∈ number.number.value?, property.Within x := by
  have sides : property.violation value = none ↔ (∀ minimum ∈ property.minimum, number.lt minimum = false) ∧
      ∀ maximum ∈ property.maximum, maximum.lt number = false := by
    simp only [violation, at_number]
    cases property.minimum <;> cases property.maximum <;> simp [ne_text_of_number at_number]
  simp only [sides, Double.lt, Number.lt_eq_false_iff]
  constructor
  · rintro ⟨low, high⟩ x at_x
    exact ⟨fun minimum bounded => low minimum bounded x at_x,
      fun maximum bounded most at_most => high maximum bounded most at_most x at_x⟩
  · intro within
    exact ⟨fun minimum bounded x at_x => (within x at_x).low minimum bounded,
      fun maximum bounded most at_most x at_x => (within x at_x).high maximum bounded most at_most⟩

theorem exists_nearest (n : Int) : ∃ nearest, (Double.ofInt n).number.value? = some nearest := by
  obtain ⟨size, -, at_nearest⟩ := Double.exists_ofInt n
  exact ⟨_, at_nearest⟩

/-- An integer within the bounds is not rounded beyond them. -/
theorem Within.of_exact {nearest : EReal} (within : property.Within ((n : ℝ) : EReal))
    (at_nearest : (Double.ofInt n).number.value? = some nearest) : property.Within nearest where
  low minimum bounded _ at_least := Double.le_ofInt at_nearest at_least (within.low minimum bounded _ at_least)
  high maximum bounded _ at_most := Double.ofInt_le at_nearest at_most (within.high maximum bounded _ at_most)

/-- An integer beyond the bounds that is rounded to a number within them is rounded onto one of them. -/
theorem exists_bound_of_rounded {nearest : EReal} (at_nearest : (Double.ofInt n).number.value? = some nearest)
    (within : property.Within nearest) (beyond : ¬ property.Within ((n : ℝ) : EReal)) : ∃ bound : Double,
      (property.minimum = some bound ∨ property.maximum = some bound) ∧ bound.number.value? = some nearest := by
  by_contra apart
  apply beyond
  -- If the integer were beyond a bound, the bound would be between it and what it is rounded to, hence the latter.
  constructor
  · intro minimum bounded least at_least
    by_contra below
    apply apart
    have above := Double.ofInt_le at_nearest at_least (not_le.mp below).le
    have same := le_antisymm above (within.low minimum bounded least at_least)
    exact ⟨minimum, .inl bounded, same ▸ at_least⟩
  · intro maximum bounded most at_most
    by_contra above
    apply apart
    have below := Double.le_ofInt at_nearest at_most (not_le.mp above).le
    have same := le_antisymm (within.high maximum bounded most at_most) below
    exact ⟨maximum, .inr bounded, same ▸ at_most⟩

theorem passes_int (allowed : property.violation (.int n) = none) : property.Passes (.int n) := by
  obtain ⟨nearest, at_nearest⟩ := exists_nearest n
  have nearest_within := (violation_eq_none_iff rfl).mp allowed nearest at_nearest
  by_cases within : property.Within ((n : ℝ) : EReal)
  · exact .within rfl within
  · -- Up to `2 ^ 53` the number compared is the integer itself.
    have large : 2 ^ 53 < n.natAbs := by
      by_contra few
      cases (Double.ofInt_exact (Nat.le_of_not_lt few)).symm.trans at_nearest
      exact within nearest_within
    obtain ⟨bound, bounded, onto⟩ := exists_bound_of_rounded at_nearest nearest_within within
    exact .rounded large at_nearest nearest_within bounded onto

theorem allowed_of_within (exact : value.point? = some x) (within : property.Within x) :
    property.violation value = none := by
  cases value with
  | bool | text => cases exact
  | int n =>
    cases exact
    exact (violation_eq_none_iff rfl).mpr fun nearest at_nearest => within.of_exact at_nearest
  | double number =>
    refine (violation_eq_none_iff rfl).mpr fun y at_y => ?_
    cases at_y.symm.trans exact
    exact within

/-- All of this is let through, and nothing else. -/
theorem allowed_iff : property.violation value = none ↔ property.Passes value := by
  constructor
  · intro allowed
    cases value with
    | bool flag => exact .flag flag
    | int n => exact passes_int allowed
    | double number =>
      cases at_x : number.number.value? with
      | none => exact .unordered (Number.value?_eq_none_iff.mp at_x)
      | some x => exact .within at_x ((violation_eq_none_iff rfl).mp allowed x at_x)
    | text text =>
      apply Passes.listed
      intro choices among
      by_contra absent
      cases allowed.symm.trans ((violation_text text).mpr ⟨choices, among, absent, rfl⟩)
  · intro passes
    cases passes with
    | within exact within => exact allowed_of_within exact within
    | unordered nan =>
      refine (violation_eq_none_iff rfl).mpr fun x at_x => ?_
      rw [Number.value?_eq_none_iff.mpr nan] at at_x
      cases at_x
    | rounded large at_nearest within =>
      refine (violation_eq_none_iff rfl).mpr fun x at_x => ?_
      cases at_x.symm.trans at_nearest
      exact within
    | flag flag => exact violation_bool flag
    | @listed text listed =>
      by_contra refused
      obtain ⟨reason, violated⟩ := Option.ne_none_iff_exists'.mp refused
      obtain ⟨choices, among, absent, -⟩ := (violation_text text).mp violated
      exact absent (listed choices among)

theorem set_eq_ok_of_passes (writable : property.readOnly = false)
    (fits : convert property.kind value = some converted) :
    property.set value = .ok { property with value := converted } ↔ property.Passes converted := by
  rw [← allowed_iff, set_eq_ok_iff]
  constructor
  · rintro ⟨-, other, fits', allowed, -⟩
    cases fits.symm.trans fits'
    exact allowed
  · intro allowed
    exact ⟨writable, converted, fits, allowed, rfl⟩

structure Checked (property : Property) : Prop where
  typed : property.Typed
  passes : property.Passes property.value

theorem Checked.of_set (written : property.set value = .ok next) : next.Checked := by
  obtain ⟨-, converted, fits, allowed, rfl⟩ := set_eq_ok_iff.mp written
  exact ⟨kind_of_convert fits, allowed_iff.mp allowed⟩

theorem Checked.perform {action : Action} (checked : property.Checked) (granted : property.perform action = .ok next) :
    next.Checked := by
  cases action with
  | set value => exact .of_set granted
  | setReadOnly readOnly =>
    cases granted
    have allowed := allowed_iff.mpr checked.passes
    exact ⟨checked.typed, (@allowed_iff (property.setReadOnly readOnly) _).mp allowed⟩

theorem Checked.run (checked : property.Checked) (actions : List Action) : (property.run actions).Checked :=
  run_invariant Checked (fun _ _ _ checked granted => checked.perform granted) checked actions

/-- A number that has passed is within the bounds, or not a number at all, or rounded onto one of them. -/
theorem Checked.within_or_gap (checked : property.Checked) (numeric : property.kind = .int ∨ property.kind = .double) :
    (∃ x, property.value.point? = some x ∧ property.Within x) ∨
    (∃ number, property.value = .double number ∧ number.number = .nan) ∨
    ∃ n nearest bound, property.value = .int n ∧ 2 ^ 53 < n.natAbs ∧
      (Double.ofInt n).number.value? = some nearest ∧ property.Within nearest ∧
      (property.minimum = some bound ∨ property.maximum = some bound) ∧ bound.number.value? = some nearest := by
  obtain ⟨typed, passes⟩ := checked
  unfold Typed at typed
  generalize property.value = value at typed passes ⊢
  cases passes with
  | within exact within => exact .inl ⟨_, exact, within⟩
  | unordered nan => exact .inr (.inl ⟨_, rfl, nan⟩)
  | rounded large at_nearest within bounded onto =>
    exact .inr (.inr ⟨_, _, _, rfl, large, at_nearest, within, bounded, onto⟩)
  | flag | listed => rcases numeric with kind | kind <;> cases typed.trans kind

/-- From its first write on, a property for numbers holds a number within its bounds, compared exactly, but for two
gaps: a NaN, which is neither below nor above a bound, and an integer beyond `2 ^ 53` whose nearest double is a bound.
The bounds stay what they were. While it is writable, what can be taken for a number of its kind is stored if and only
if that number is within the bounds or in a gap. -/
theorem stored_numbers_within (numeric : property.kind = .int ∨ property.kind = .double) (before : List Action)
    (written : (property.run before).set value = .ok next) (later : List Action) :
    let final := next.run later
    final.declaration = property.declaration ∧ final.value.kind = property.kind ∧
    ((∃ x, final.value.point? = some x ∧ final.Within x) ∨
      (∃ number, final.value = .double number ∧ number.number = .nan) ∨
      ∃ n nearest bound, final.value = .int n ∧ 2 ^ 53 < n.natAbs ∧
        (Double.ofInt n).number.value? = some nearest ∧ final.Within nearest ∧
        (final.minimum = some bound ∨ final.maximum = some bound) ∧ bound.number.value? = some nearest) ∧
    ∀ value converted, final.readOnly = false → convert property.kind value = some converted →
      (final.set value = .ok { final with value := converted } ↔ final.Passes converted) := by
  intro final
  have same : final.declaration = property.declaration :=
    (declaration_run later).trans
      ((declaration_perform (show Property.perform _ (.set value) = .ok next from written)).trans
        (declaration_run before))
  have kind : final.kind = property.kind := congrArg Declaration.kind same
  have checked : final.Checked := (Checked.of_set written).run later
  refine ⟨same, checked.typed.trans kind, checked.within_or_gap (kind ▸ numeric), ?_⟩
  intro value converted writable fits
  exact set_eq_ok_of_passes writable (kind ▸ fits)

def sizes : Property := (ofInt 8).withRange (Double.ofInt 1) (Double.ofInt 1024)

theorem stored_numbers_within_sizes : (sizes.kind = .int ∨ sizes.kind = .double) ∧
    ∃ next, (sizes.run [.set (.int 0)]).set (.text " 12 ") = .ok next ∧
      let final := next.run [.set (.int 2048), .setReadOnly true, .set (.int 16)]
      final.declaration = sizes.declaration ∧ final.value = .int 12 ∧ final.Within ((12 : ℤ) : ℝ) := by
  have numeric : sizes.kind = .int ∨ sizes.kind = .double := .inl rfl
  have written : (sizes.run [.set (.int 0)]).set (.text " 12 ") = .ok { sizes with value := .int 12 } := by
    decide +kernel
  obtain ⟨same, -, held, -⟩ :=
    stored_numbers_within numeric _ written [.set (.int 2048), .setReadOnly true, .set (.int 16)]
  have stored : (run { sizes with value := .int 12 } [.set (.int 2048), .setReadOnly true, .set (.int 16)]).value =
      .int 12 := by decide +kernel
  refine ⟨numeric, _, written, same, stored, ?_⟩
  rw [stored] at held
  rcases held with ⟨x, exact, within⟩ | ⟨number, double, -⟩ | ⟨n, nearest, bound, integer, large, -⟩
  · cases exact
    exact within
  · cases double
  · cases integer
    exact absurd large (by decide)

def level : Property := (ofValue (.double (Double.ofInt 1))).withRange (Double.ofInt 0) (Double.ofInt 10)

/-- A count that ends where doubles cease to hold all integers. -/
def count : Property := (ofInt 0).withRange (Double.ofInt 0) (Double.ofInt (2 ^ 53))

theorem Within.le_ofInt (within : property.Within x) (bounded : property.maximum = some (Double.ofInt n))
    (few : n.natAbs ≤ 2 ^ 53) : x ≤ ((n : ℝ) : EReal) :=
  within.high _ bounded _ (Double.ofInt_exact few)

/-- Both gaps can be reached: a NaN is stored, and an integer above the maximum. -/
theorem gaps_reached :
    (∃ next, level.set (.text "nan") = .ok next ∧ ¬ ∃ x, next.value.point? = some x ∧ next.Within x) ∧
    ∃ next, count.set (.text "9007199254740993") = .ok next ∧ next.value = .int (2 ^ 53 + 1) ∧
      ¬ ∃ x, next.value.point? = some x ∧ next.Within x := by
  constructor
  · have written : level.set (.text "nan") = .ok { level with value := .double Double.nan } := by decide +kernel
    have nan : Double.nan.number = .nan := by decide
    refine ⟨_, written, ?_⟩
    rintro ⟨x, exact, -⟩
    simp [Value.point?, nan, Number.value?] at exact
  · have written : count.set (.text "9007199254740993") = .ok { count with value := .int (2 ^ 53 + 1) } := by
      decide +kernel
    refine ⟨_, written, rfl, ?_⟩
    rintro ⟨x, exact, within⟩
    cases exact
    have above := within.le_ofInt rfl (by decide)
    rw [EReal.coe_le_coe_iff, Int.cast_le] at above
    exact absurd above (by decide)

theorem convert_double_int (exact : number.number.value? = some ((n : ℝ) : EReal)) :
    convert .int (.double number) = some (.int (Number.saturated n)) := by
  have integral : number.isIntegral = true := Number.isIntegral_iff.mpr ⟨n, exact⟩
  have stored : number.toInt64 = Number.saturated n := Number.toInt64_of_value exact
  simp [convert, integral, stored]

theorem convert_double_eq_none (fraction : ∀ n : ℤ, number.number.value? ≠ some ((n : ℝ) : EReal)) :
    convert .int (.double number) = none := by
  have integral : ¬ number.isIntegral = true := by
    intro integral
    obtain ⟨n, exact⟩ := Number.isIntegral_iff.mp integral
    exact fraction n exact
  simp [convert, integral]

theorem set_double_int (kind : property.kind = .int) (exact : number.number.value? = some ((n : ℝ) : EReal)) :
    property.set (.double number) = property.set (.int (Number.saturated n)) := by
  have integer : convert .int (.int (Number.saturated n)) = some (.int (Number.saturated n)) := rfl
  simp only [set, kind, convert_double_int exact, integer]

/-- A double is written to a property for integers only if it is an integer. What is stored is that integer if 64 bits
with a sign can hold it, and the end of their range on its side if they cannot; bounds and lock are looked at as if it
had been written as an integer. What is no integer, infinities and NaN included, is refused. A refused write changes
nothing. -/
theorem double_write_exact_or_saturated (kind : property.kind = .int) (number : Double) :
    (∀ next, property.set (.double number) = .ok next → ∃ n : ℤ, number.number.value? = some ((n : ℝ) : EReal) ∧
      next = { property with value := .int (Number.saturated n) } ∧
      (-2 ^ 63 ≤ n → n < 2 ^ 63 → next.value = .int n)) ∧
    (∀ n : ℤ, number.number.value? = some ((n : ℝ) : EReal) →
      property.set (.double number) = property.set (.int (Number.saturated n))) ∧
    ((∀ n : ℤ, number.number.value? ≠ some ((n : ℝ) : EReal)) → property.set (.double number) =
      .error (if property.readOnly then .readOnly else .unconvertible (.double number) .int)) ∧
    ∀ reason, property.set (.double number) = .error reason → property.after (.set (.double number)) = property := by
  refine ⟨fun next written => ?stored, fun n exact => set_double_int kind exact, fun fraction => ?refused,
    fun reason refused => ?kept⟩
  case stored =>
    obtain ⟨-, converted, fits, -, rfl⟩ := set_eq_ok_iff.mp written
    rw [kind] at fits
    by_cases whole : ∃ n : ℤ, number.number.value? = some ((n : ℝ) : EReal)
    · obtain ⟨n, exact⟩ := whole
      cases (convert_double_int exact).symm.trans fits
      exact ⟨n, exact, rfl, fun least below => congrArg Value.int (Number.saturated_of_fits least below)⟩
    · cases (convert_double_eq_none (not_exists.mp whole)).symm.trans fits
  case refused => cases locked : property.readOnly <;> simp [set, locked, kind, convert_double_eq_none fraction]
  case kept => simp only [after, perform, refused]

/-- The least integer of 64 bits with a sign, as a double. -/
theorem double_write_exact_or_saturated_least : (ofInt 0).kind = .int ∧
    ∃ next, (ofInt 0).set (.double ⟨0xc3e0000000000000⟩) = .ok next ∧ next.value = .int (-2 ^ 63) ∧
      (⟨0xc3e0000000000000⟩ : Double).number.value? = some (((-2 ^ 63 : ℤ) : ℝ) : EReal) := by
  have least : (⟨0xc3e0000000000000⟩ : Double).number = .finite true (2 ^ 52) 11 := by decide
  have exact : (⟨0xc3e0000000000000⟩ : Double).number.value? = some (((-2 ^ 63 : ℤ) : ℝ) : EReal) := by
    rw [least]
    norm_num [Number.value?, Number.rational]
  have written : (ofInt 0).set (.double ⟨0xc3e0000000000000⟩) = .ok (ofInt (-2 ^ 63)) := by decide +kernel
  have kind : (ofInt 0).kind = .int := rfl
  obtain ⟨stored, -⟩ := double_write_exact_or_saturated kind ⟨0xc3e0000000000000⟩
  obtain ⟨n, at_n, -, held⟩ := stored _ written
  rw [exact, Option.some.injEq, EReal.coe_eq_coe_iff, Int.cast_inj] at at_n
  subst at_n
  exact ⟨kind, _, written, held (by decide) (by decide), exact⟩

/-- `2 ^ 63` as a double is stored, but not as itself. -/
theorem stored_beyond_64_bits : ∃ next, (ofInt 0).set (.double ⟨0x43e0000000000000⟩) = .ok next ∧
    (⟨0x43e0000000000000⟩ : Double).number.value? = some (((2 ^ 63 : ℤ) : ℝ) : EReal) ∧
    next.value = .int (2 ^ 63 - 1) ∧ next.value.point? ≠ (⟨0x43e0000000000000⟩ : Double).number.value? := by
  have beyond : (⟨0x43e0000000000000⟩ : Double).number = .finite false (2 ^ 52) 11 := by decide
  have exact : (⟨0x43e0000000000000⟩ : Double).number.value? = some (((2 ^ 63 : ℤ) : ℝ) : EReal) := by
    rw [beyond]
    norm_num [Number.value?, Number.rational]
  have written : (ofInt 0).set (.double ⟨0x43e0000000000000⟩) = .ok (ofInt (2 ^ 63 - 1)) := by decide +kernel
  refine ⟨_, written, exact, rfl, ?_⟩
  rw [exact]
  intro same
  simp only [ofInt, ofValue, Value.point?, Option.some.injEq, EReal.coe_eq_coe_iff, Int.cast_inj] at same
  exact absurd same (by decide)

end TouchTracking.Property
