import Mathlib.Data.String.Basic
import TouchTracking.Proofs.Bags

/-! Writes to properties, one after another. What a property is declared to be never changes, its value keeps the
declared kind, and a write is refused exactly for one of the reasons of `Property.Refuses`. In a bag a refused
request changes nothing and is reported as a failure of the configuration; a granted one changes the one entry. -/
namespace TouchTracking

open Binary (Double)

namespace Property

/-- All of a property but its value and its lock. -/
structure Declaration where
  kind : Kind
  minimum : Option Double
  maximum : Option Double
  choices : Option (List String)
  description : String
  deriving DecidableEq

def declaration (property : Property) : Declaration :=
  ⟨property.kind, property.minimum, property.maximum, property.choices, property.description⟩

inductive Action
  | set (value : Value)
  | setReadOnly (readOnly : Bool)

def perform (property : Property) : Action → Except WriteError Property
  | .set value => property.set value
  | .setReadOnly readOnly => .ok (property.setReadOnly readOnly)

def after (property : Property) (action : Action) : Property :=
  match property.perform action with
  | .ok next => next
  | .error _ => property

def run (property : Property) (actions : List Action) : Property := actions.foldl after property

/-- A property as it can be made. -/
inductive Made : Property → Prop
  | ofValue (value : Value) : Made (.ofValue value)
  | withRange {property : Property} (minimum maximum : Double) :
      Made property → Made (property.withRange minimum maximum)
  | withMinimum {property : Property} (minimum : Double) : Made property → Made (property.withMinimum minimum)
  | withChoices {property : Property} (choices : List String) : Made property → Made (property.withChoices choices)
  | describedAs {property : Property} (description : String) :
      Made property → Made (property.describedAs description)
  | perform {property next : Property} {action : Action} :
      Made property → property.perform action = .ok next → Made next

/-- The reasons for which a write is refused, the first that applies. -/
inductive Refuses (property : Property) (value : Value) : WriteError → Prop
  | locked (locked : property.readOnly = true) : Refuses property value .readOnly
  | unfit (writable : property.readOnly = false) (unfit : convert property.kind value = none) :
      Refuses property value (.unconvertible value property.kind)
  | low {converted : Value} {number minimum : Double} (writable : property.readOnly = false)
      (fits : convert property.kind value = some converted) (at_number : converted.toNumber? = some number)
      (bounded : property.minimum = some minimum) (below : number.lt minimum = true) :
      Refuses property value (.belowMinimum number minimum)
  | high {converted : Value} {number maximum : Double} (writable : property.readOnly = false)
      (fits : convert property.kind value = some converted) (at_number : converted.toNumber? = some number)
      (not_low : ∀ minimum ∈ property.minimum, number.lt minimum = false)
      (bounded : property.maximum = some maximum) (above : maximum.lt number = true) :
      Refuses property value (.aboveMaximum number maximum)
  | unlisted {text : String} {choices : List String} (writable : property.readOnly = false)
      (fits : convert property.kind value = some (.text text)) (listed : property.choices = some choices)
      (absent : text ∉ choices) : Refuses property value (.notAChoice text choices)

variable {property next : Property} {value converted : Value} {reason : WriteError}

theorem kind_of_convert {kind : Kind} (fits : convert kind value = some converted) : converted.kind = kind := by
  cases kind <;> cases value <;> simp only [convert, Option.some.injEq, Option.map_eq_some_iff,
    Option.ite_none_right_eq_some, reduceCtorEq] at fits
  all_goals grind [Value.kind]

theorem violation_bool (flag : Bool) : property.violation (.bool flag) = none := by
  simp [violation, Value.toNumber?]

theorem violation_text (text : String) : property.violation (.text text) = some reason ↔
    ∃ choices ∈ property.choices, text ∉ choices ∧ .notAChoice text choices = reason := by
  simp only [violation, Value.toNumber?]
  cases property.choices <;> simp

theorem ne_text_of_number {number : Double} (at_number : value.toNumber? = some number) (text : String) :
    value ≠ .text text := by
  rintro rfl
  cases at_number

theorem violation_number {number : Double} (at_number : value.toNumber? = some number) :
    property.violation value = some reason ↔
      (∃ minimum ∈ property.minimum, number.lt minimum = true ∧ .belowMinimum number minimum = reason) ∨
      ((∀ minimum ∈ property.minimum, number.lt minimum = false) ∧
        ∃ maximum ∈ property.maximum, maximum.lt number = true ∧ .aboveMaximum number maximum = reason) := by
  simp only [violation, at_number]
  cases property.minimum <;> cases property.maximum <;> simp [ne_text_of_number at_number]

theorem set_eq_ok_iff : property.set value = .ok next ↔ property.readOnly = false ∧
    ∃ converted, convert property.kind value = some converted ∧ property.violation converted = none ∧
      { property with value := converted } = next := by
  constructor
  · intro written
    obtain ⟨writable, converted, fits, allowed, rfl⟩ := set_ok written
    exact ⟨writable, converted, fits, allowed, rfl⟩
  · rintro ⟨writable, converted, fits, allowed, rfl⟩
    simp [set, writable, fits, allowed]

theorem refuses_of_violation (writable : property.readOnly = false)
    (fits : convert property.kind value = some converted)
    (violated : property.violation converted = some reason) : property.Refuses value reason := by
  have of_number {number : Double} (at_number : converted.toNumber? = some number) :
      property.Refuses value reason := by
    rcases (violation_number at_number).mp violated with
      ⟨minimum, bounded, below, rfl⟩ | ⟨not_low, maximum, bounded, above, rfl⟩
    · exact .low writable fits at_number bounded below
    · exact .high writable fits at_number not_low bounded above
  cases converted with
  | bool flag => simp [violation_bool] at violated
  | int n => exact of_number rfl
  | double x => exact of_number rfl
  | text text =>
    obtain ⟨choices, listed, absent, rfl⟩ := (violation_text text).mp violated
    exact .unlisted writable fits listed absent

/-- A write is refused for one of the reasons, and whenever one of them applies. -/
theorem set_eq_error_iff : property.set value = .error reason ↔ property.Refuses value reason := by
  constructor
  · intro refused
    unfold set at refused
    split at refused
    next locked =>
      cases refused
      exact .locked locked
    next writable =>
      have writable := Bool.eq_false_iff.mpr writable
      split at refused
      next unfit =>
        cases refused
        exact .unfit writable unfit
      next converted fits =>
        split at refused
        next violated =>
          cases refused
          exact refuses_of_violation writable fits violated
        next => cases refused
  · intro refuses
    have of_violation {converted : Value} (writable : property.readOnly = false)
        (fits : convert property.kind value = some converted)
        (violated : property.violation converted = some reason) : property.set value = .error reason := by
      simp [set, writable, fits, violated]
    cases refuses with
    | locked locked => simp [set, locked]
    | unfit writable unfit => simp [set, writable, unfit]
    | low writable fits at_number bounded below =>
      exact of_violation writable fits ((violation_number at_number).mpr (.inl ⟨_, bounded, below, rfl⟩))
    | high writable fits at_number not_low bounded above =>
      exact of_violation writable fits
        ((violation_number at_number).mpr (.inr ⟨not_low, _, bounded, above, rfl⟩))
    | unlisted writable fits listed absent =>
      exact of_violation writable fits ((violation_text _).mpr ⟨_, listed, absent, rfl⟩)

theorem declaration_perform {action : Action} (granted : property.perform action = .ok next) :
    next.declaration = property.declaration := by
  cases action with
  | set value =>
    obtain ⟨-, converted, -, -, rfl⟩ := set_eq_ok_iff.mp granted
    rfl
  | setReadOnly readOnly =>
    cases granted
    rfl

def Typed (property : Property) : Prop := property.value.kind = property.kind

theorem Typed.perform {action : Action} (typed : property.Typed) (granted : property.perform action = .ok next) :
    next.Typed := by
  cases action with
  | set value =>
    obtain ⟨-, converted, fits, -, rfl⟩ := set_eq_ok_iff.mp granted
    exact kind_of_convert fits
  | setReadOnly readOnly =>
    cases granted
    exact typed

/-- What of a property survives a granted request, survives any request. -/
theorem after_invariant (invariant : Property → Prop) (action : Action)
    (kept : ∀ next, property.perform action = .ok next → invariant next) (holds : invariant property) :
    invariant (property.after action) := by
  unfold after
  split
  next next granted => exact kept next granted
  next => exact holds

theorem run_invariant (invariant : Property → Prop)
    (kept : ∀ (property next : Property) (action : Action), invariant property →
      property.perform action = .ok next → invariant next)
    (holds : invariant property) (actions : List Action) : invariant (property.run actions) := by
  induction actions generalizing property with
  | nil => exact holds
  | cons action actions ih =>
    apply ih
    exact after_invariant invariant action (fun next granted => kept property next action holds granted) holds

theorem declaration_run (actions : List Action) : (property.run actions).declaration = property.declaration :=
  run_invariant (·.declaration = property.declaration)
    (fun _ _ _ same granted => (declaration_perform granted).trans same) rfl actions

theorem Made.typed (made : property.Made) : property.Typed := by
  induction made with
  | ofValue value => rfl
  | withRange _ _ _ typed => exact typed
  | withMinimum _ _ typed => exact typed
  | withChoices _ _ typed => exact typed
  | describedAs _ _ typed => exact typed
  | perform _ granted typed => exact typed.perform granted

end Property

namespace PropertyBag

inductive Action
  | set (name : String) (value : Property.Value)
  | setReadOnly (name : String) (readOnly : Bool)

def perform (bag : PropertyBag) : Action → Except BagError PropertyBag
  | .set name value => bag.set name value
  | .setReadOnly name readOnly => bag.setReadOnly name readOnly

def after (bag : PropertyBag) (action : Action) : PropertyBag :=
  match bag.perform action with
  | .ok next => next
  | .error _ => bag

def run (bag : PropertyBag) (actions : List Action) : PropertyBag := actions.foldl after bag

def names (bag : PropertyBag) : List String := bag.entries.map Prod.fst

/-- What the properties are declared to be, in the order of their names. -/
def declarations (bag : PropertyBag) : List (String × Property.Declaration) :=
  bag.entries.map fun entry => (entry.1, entry.2.declaration)

inductive Built : PropertyBag → Prop
  | empty : Built .empty
  | register {bag : PropertyBag} {property : Property} (name : String) :
      Built bag → property.Made → Built (bag.register name property)
  | perform {bag next : PropertyBag} {action : Action} : Built bag → bag.perform action = .ok next → Built next

/-- The reasons for which a write to one of the properties is refused. -/
inductive Refuses (bag : PropertyBag) (name : String) (value : Property.Value) : BagError → Prop
  | unknown (absent : bag.get? name = none) : Refuses bag name value (.unknown name)
  | refused {property : Property} {reason : Property.WriteError} (found : bag.get? name = some property)
      (refuses : property.Refuses value reason) : Refuses bag name value (.refused name reason)

/-- One entry has changed, and nothing else. -/
structure Changed (bag : PropertyBag) (name : String) (old new : Property) (next : PropertyBag) : Prop where
  found : bag.get? name = some old
  replaced : next.get? name = some new
  others : ∀ other ≠ name, next.get? other = bag.get? other
  names : next.names = bag.names

variable {bag next : PropertyBag} {name : String} {value : Property.Value} {error : BagError}
  {old new property : Property}

def Ordered (bag : PropertyBag) : Prop := bag.names.Pairwise (· < ·)

theorem mem_names_insertSorted {other : String} (entries : List (String × Property)) :
    other ∈ (insertSorted name property entries).map Prod.fst ↔ other = name ∨ other ∈ entries.map Prod.fst := by
  induction entries with
  | nil => simp [insertSorted]
  | cons entry rest ih =>
    obtain ⟨first, kept⟩ := entry
    unfold insertSorted
    split
    next same => simp [same]
    next =>
      split
      next => simp
      next =>
        simp only [List.map_cons, List.mem_cons, ih]
        exact or_left_comm

theorem ordered_register (ordered : bag.Ordered) (name : String) (property : Property) :
    (bag.register name property).Ordered := by
  obtain ⟨entries⟩ := bag
  change ((insertSorted name property entries).map Prod.fst).Pairwise (· < ·)
  induction entries with
  | nil => simp [insertSorted]
  | cons entry rest ih =>
    obtain ⟨first, kept⟩ := entry
    obtain ⟨least, ascending⟩ := List.pairwise_cons.mp ordered
    unfold insertSorted
    split
    next same =>
      subst same
      exact List.pairwise_cons.mpr ⟨least, ascending⟩
    next apart =>
      split
      next before =>
        refine List.pairwise_cons.mpr ⟨fun other member => ?_, List.pairwise_cons.mpr ⟨least, ascending⟩⟩
        rcases List.mem_cons.mp member with rfl | later
        · exact before
        · exact before.trans (least other later)
      next after =>
        refine List.pairwise_cons.mpr ⟨fun other member => ?_, ih ascending⟩
        rcases (mem_names_insertSorted rest).mp member with rfl | later
        · exact lt_of_le_of_ne (not_lt.mp after) (Ne.symm apart)
        · exact least other later

theorem names_replace (bag : PropertyBag) (name : String) (property : Property) :
    (bag.replace name property).names = bag.names := by
  simp only [names, replace, List.map_map]
  refine List.map_congr_left fun entry _ => ?_
  simp only [Function.comp_apply]
  split
  next same => exact same.symm
  next => rfl

theorem changed_replace (found : bag.get? name = some old) (new : Property) :
    Changed bag name old new (bag.replace name new) where
  found := found
  replaced := by simp [found]
  others other apart := by simp [apart]
  names := names_replace bag name new

/-- A granted request replaces one entry by what was asked of it. -/
theorem perform_ok {action : Action} (granted : bag.perform action = .ok next) :
    ∃ name old new, bag.get? name = some old ∧ next = bag.replace name new ∧
      ∃ request : Property.Action, old.perform request = .ok new := by
  cases action with
  | set name value =>
    simp only [perform, set] at granted
    split at granted
    next => cases granted
    next old found =>
      split at granted
      next => cases granted
      next new taken =>
        cases granted
        exact ⟨name, old, new, found, rfl, .set value, taken⟩
  | setReadOnly name readOnly =>
    simp only [perform, setReadOnly] at granted
    split at granted
    next => cases granted
    next old found =>
      cases granted
      exact ⟨name, old, old.setReadOnly readOnly, found, rfl, .setReadOnly readOnly, rfl⟩

theorem Built.ordered (built : bag.Built) : bag.Ordered := by
  induction built with
  | empty => exact List.Pairwise.nil
  | register name _ _ ordered => exact ordered_register ordered name _
  | perform _ granted ordered =>
    obtain ⟨name, old, new, -, rfl, -⟩ := perform_ok granted
    unfold Ordered
    rw [names_replace]
    exact ordered

theorem Ordered.get?_of_mem (ordered : bag.Ordered) {entry : String × Property} (member : entry ∈ bag.entries) :
    bag.get? entry.1 = some entry.2 := by
  obtain ⟨entries⟩ := bag
  change entries.lookup entry.1 = some entry.2
  induction entries with
  | nil => cases member
  | cons first rest ih =>
    obtain ⟨least, ascending⟩ := List.pairwise_cons.mp ordered
    rw [lookup_cons]
    rcases List.mem_cons.mp member with rfl | later
    · exact if_pos rfl
    · have apart : entry.1 ≠ first.1 := (least entry.1 (List.mem_map_of_mem later)).ne'
      rw [if_neg apart]
      exact ih ascending later

theorem declarations_replace (ordered : bag.Ordered) (found : bag.get? name = some old)
    (same : new.declaration = old.declaration) : (bag.replace name new).declarations = bag.declarations := by
  simp only [declarations, replace, List.map_map]
  refine List.map_congr_left fun entry member => ?_
  simp only [Function.comp_apply]
  split
  next here =>
    have known := ordered.get?_of_mem member
    rw [here, found] at known
    cases known
    rw [same, here]
  next => rfl

theorem declarations_perform {action : Action} (ordered : bag.Ordered) (granted : bag.perform action = .ok next) :
    next.declarations = bag.declarations := by
  obtain ⟨name, old, new, found, rfl, request, granted⟩ := perform_ok granted
  exact declarations_replace ordered found (Property.declaration_perform granted)

theorem Built.typed (built : bag.Built) (found : bag.get? name = some property) : property.Typed := by
  induction built generalizing name property with
  | empty => cases found
  | register other _ made typed =>
    rw [get?_register] at found
    split at found
    next =>
      cases found
      exact made.typed
    next => exact typed found
  | perform _ granted typed =>
    obtain ⟨other, old, new, known, rfl, request, asked⟩ := perform_ok granted
    have changed := changed_replace known new
    by_cases here : name = other
    · subst here
      cases changed.replaced.symm.trans found
      exact (typed known).perform asked
    · rw [changed.others name here] at found
      exact typed found

theorem Built.after (built : bag.Built) (action : Action) :
    (bag.after action).Built ∧ (bag.after action).declarations = bag.declarations := by
  unfold PropertyBag.after
  split
  next next granted => exact ⟨built.perform granted, declarations_perform built.ordered granted⟩
  next => exact ⟨built, rfl⟩

theorem Built.run (built : bag.Built) (actions : List Action) :
    (bag.run actions).Built ∧ (bag.run actions).declarations = bag.declarations := by
  induction actions generalizing bag with
  | nil => exact ⟨built, rfl⟩
  | cons action actions ih =>
    obtain ⟨still, same⟩ := built.after action
    obtain ⟨final, kept⟩ := ih still
    exact ⟨final, kept.trans same⟩

theorem set_eq_error_iff : bag.set name value = .error error ↔ bag.Refuses name value error := by
  constructor
  · intro refused
    unfold set at refused
    split at refused
    next absent =>
      cases refused
      exact .unknown absent
    next property found =>
      split at refused
      next reason refuses =>
        cases refused
        exact .refused found (Property.set_eq_error_iff.mp refuses)
      next => cases refused
  · intro refuses
    cases refuses with
    | unknown absent => simp [set, absent]
    | refused found refuses => simp [set, found, Property.set_eq_error_iff.mpr refuses]

/-- A write that goes through gives one writable property a value of its kind, for a choice one of the choices. -/
theorem changed_of_set (written : bag.set name value = .ok next) : ∃ old converted, old.readOnly = false ∧
    Property.convert old.kind value = some converted ∧ converted.kind = old.kind ∧
    (∀ text choices, converted = .text text → old.choices = some choices → text ∈ choices) ∧
    Changed bag name old { old with value := converted } next := by
  unfold set at written
  split at written
  next => cases written
  next old found =>
    split at written
    next => cases written
    next new taken =>
      cases written
      obtain ⟨writable, converted, fits, allowed, rfl⟩ := Property.set_eq_ok_iff.mp taken
      refine ⟨old, converted, writable, fits, Property.kind_of_convert fits, ?_, changed_replace found _⟩
      rintro text choices rfl listed
      by_contra absent
      have violated := (Property.violation_text text).mpr ⟨choices, listed, absent, rfl⟩
      rw [allowed] at violated
      cases violated

theorem changed_of_setReadOnly {readOnly : Bool} (locked : bag.setReadOnly name readOnly = .ok next) :
    ∃ old, Changed bag name old (old.setReadOnly readOnly) next := by
  unfold setReadOnly at locked
  split at locked
  next => cases locked
  next old found =>
    cases locked
    exact ⟨old, changed_replace found _⟩

theorem perform_error {action : Action} (refused : bag.perform action = .error error) :
    bag.after action = bag ∧ error.failure.kind = .configuration := by
  refine ⟨?_, rfl⟩
  simp only [after, refused]

/-- Along every run of requests to a bag nothing about its properties changes but values and locks, and every value
has the kind that is declared for it. In every state reached a write is refused exactly for one of the reasons: the
name is unknown, the property is locked, the value cannot be taken for one of the kind, is below the minimum, above
the maximum, or not a choice. What is refused is reported as a failure of the configuration and changes nothing.
A write that goes through was to a writable property and changes that value alone, to one of the declared kind, and to
one of the choices if it is a text and there are choices; a request for a lock changes that lock alone. -/
theorem writes_typed_and_atomic (built : bag.Built) (actions : List Action) :
    let final := bag.run actions
    final.declarations = bag.declarations ∧
    (∀ name property, final.get? name = some property → property.value.kind = property.kind) ∧
    (∀ name value error, final.set name value = .error error ↔ final.Refuses name value error) ∧
    (∀ action error, final.perform action = .error error →
      final.after action = final ∧ error.failure.kind = .configuration) ∧
    (∀ name value next, final.set name value = .ok next → ∃ old converted, old.readOnly = false ∧
      Property.convert old.kind value = some converted ∧ converted.kind = old.kind ∧
      (∀ text choices, converted = .text text → old.choices = some choices → text ∈ choices) ∧
      Changed final name old { old with value := converted } next) ∧
    ∀ name readOnly next, final.setReadOnly name readOnly = .ok next →
      ∃ old, Changed final name old { old with readOnly } next := by
  intro final
  obtain ⟨reached, same⟩ := built.run actions
  refine ⟨same, fun name property found => reached.typed found, fun name value error => set_eq_error_iff,
    fun action error refused => perform_error refused, fun name value next written => changed_of_set written,
    fun name readOnly next locked => changed_of_setReadOnly locked⟩

/-- A number with bounds, a choice and a locked text. -/
def panel : PropertyBag :=
  ((empty.register "size" ((Property.ofInt 8).withRange (Double.ofInt 1) (Double.ofInt 1024))).register "mode"
    ((Property.ofValue (.text "fast")).withChoices ["fast", "slow"])).register "id"
      ((Property.ofValue (.text "Tracker0")).setReadOnly true)

theorem panel_built : panel.Built := by
  refine .register _ (.register _ (.register _ .empty ?size) ?mode) ?id
  case size => exact .withRange _ _ (.ofValue _)
  case mode => exact .withChoices _ (.ofValue _)
  case id => exact .perform (.ofValue _) (show Property.perform _ (.setReadOnly true) = .ok _ from rfl)

/-- Two writes that go through, two that are refused, and a lock. -/
def busy : List Action :=
  [.set "size" (.text " 12 "), .set "mode" (.text "medium"), .set "id" (.text "other"), .set "mode" (.text "slow"),
    .setReadOnly "mode" true]

theorem writes_typed_and_atomic_busy :
    panel.Built ∧ (panel.run busy).declarations = panel.declarations ∧
    (panel.run busy).entries.map (·.2.value) = [.text "Tracker0", .text "slow", .int 12] ∧
    (panel.run busy).set "mode" (.text "fast") = .error (.refused "mode" .readOnly) := by
  have locked : (panel.run busy).get? "mode" =
      some (((Property.ofValue (.text "slow")).withChoices ["fast", "slow"]).setReadOnly true) := by decide +kernel
  obtain ⟨same, -, refuses, -⟩ := writes_typed_and_atomic panel_built busy
  exact ⟨panel_built, same, by decide +kernel, (refuses _ _ _).mpr (.refused locked (.locked rfl))⟩

end PropertyBag
end TouchTracking
