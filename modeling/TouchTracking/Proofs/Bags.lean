import TouchTracking.Stage.Core

/-! What a bag of properties holds after a change, name by name. A write that goes through replaces the value of
one property, and nothing else about it. -/
namespace TouchTracking

namespace PropertyBag

variable {name other : String} {property : Property}

theorem lookup_cons (first : String) (value : Property) (rest : List (String × Property)) (name : String) :
    ((first, value) :: rest).lookup name = if name = first then some value else rest.lookup name := by
  rw [List.lookup_cons]
  by_cases same : name = first
  · rw [if_pos same, beq_iff_eq.mpr same]
  · rw [if_neg same, beq_eq_false_iff_ne.mpr same]

theorem lookup_insertSorted (entries : List (String × Property)) :
    (insertSorted name property entries).lookup other =
      if other = name then some property else entries.lookup other := by
  induction entries with
  | nil => rw [insertSorted, lookup_cons]
  | cons entry rest ih =>
    obtain ⟨first, value⟩ := entry
    unfold insertSorted
    split
    next same =>
      subst same
      simp only [lookup_cons]
      split <;> rfl
    next apart =>
      split
      next => rw [lookup_cons]
      next =>
        rw [lookup_cons, lookup_cons, ih]
        by_cases here : other = first
        · subst here
          rw [if_pos rfl, if_pos rfl, if_neg (Ne.symm apart)]
        · rw [if_neg here, if_neg here]

@[simp] theorem get?_register (bag : PropertyBag) (name other : String) (property : Property) :
    (bag.register name property).get? other = if other = name then some property else bag.get? other :=
  lookup_insertSorted bag.entries

@[simp] theorem get?_replace (bag : PropertyBag) (name other : String) (property : Property) :
    (bag.replace name property).get? other =
      if other = name then (bag.get? name).map fun _ => property else bag.get? other := by
  simp only [get?, replace]
  induction bag.entries with
  | nil => simp
  | cons entry rest ih =>
    obtain ⟨first, value⟩ := entry
    rw [List.map_cons]
    by_cases renamed : first = name
    · subst renamed
      rw [if_pos rfl, lookup_cons, lookup_cons, lookup_cons, ih]
      by_cases here : other = first
      · simp [here]
      · simp [here]
    · rw [if_neg renamed, lookup_cons, lookup_cons, lookup_cons, if_neg (Ne.symm renamed), ih]
      by_cases here : other = first
      · subst here
        simp [renamed]
      · simp [here]

theorem get?_foldl_register {entries : List (String × Property)} (distinct : (entries.map Prod.fst).Nodup)
    (bag : PropertyBag) :
    let full := entries.foldl (fun bag entry => bag.register entry.1 entry.2) bag
    (∀ entry ∈ entries, full.get? entry.1 = some entry.2) ∧
      ∀ name ∉ entries.map Prod.fst, full.get? name = bag.get? name := by
  induction entries generalizing bag with
  | nil =>
    refine ⟨fun entry member => absurd member List.not_mem_nil, fun name _ => ?_⟩
    rw [List.foldl_nil]
  | cons entry entries ih =>
    obtain ⟨apart, rest⟩ := List.nodup_cons.mp distinct
    obtain ⟨there, kept⟩ := ih rest (bag.register entry.1 entry.2)
    refine ⟨fun other member => ?_, fun name absent => ?_⟩
    · rcases List.mem_cons.mp member with rfl | later
      · have first := kept other.1 apart
        rw [get?_register, if_pos rfl] at first
        exact first
      · exact there other later
    · rw [List.map_cons, List.mem_cons, not_or] at absent
      have still := kept name absent.2
      rw [get?_register, if_neg absent.1] at still
      exact still

end PropertyBag

namespace Property

variable {property next : Property} {value : Value}

/-- A write that goes through was to a writable property; its value, made to fit the kind, violates nothing. -/
theorem set_ok (written : property.set value = .ok next) :
    property.readOnly = false ∧ ∃ converted, convert property.kind value = some converted ∧
      property.violation converted = none ∧ next = { property with value := converted } := by
  unfold set at written
  split at written
  next => cases written
  next writable =>
    split at written
    next => cases written
    next converted fits =>
      split at written
      next => cases written
      next allowed =>
        cases written
        exact ⟨Bool.eq_false_iff.mpr writable, converted, fits, allowed, rfl⟩

end Property

namespace PropertyBag

variable {bag next : PropertyBag} {name : String} {value : Property.Value}

theorem set_ok (written : bag.set name value = .ok next) :
    ∃ old new, bag.get? name = some old ∧ old.set value = .ok new ∧
      ∀ other, next.get? other = if other = name then some new else bag.get? other := by
  unfold set at written
  split at written
  next => cases written
  next old found =>
    split at written
    next => cases written
    next new taken =>
      cases written
      refine ⟨old, new, found, taken, fun other => ?_⟩
      rw [get?_replace, found]
      rfl

end PropertyBag

theorem Core.properties_foldl_register (entries : List (String × Property)) (core : Core) :
    (entries.foldl (fun core entry => core.register entry.1 entry.2) core).properties =
      entries.foldl (fun bag entry => bag.register entry.1 entry.2) core.properties := by
  induction entries generalizing core with
  | nil => rfl
  | cons entry entries ih =>
    rw [List.foldl_cons, ih]
    rfl

theorem Core.foldl_register_same (entries : List (String × Property)) (core : Core) :
    let register := fun (core : Core) (entry : String × Property) => core.register entry.1 entry.2
    entries.foldl register core = { core with properties := (entries.foldl register core).properties } := by
  induction entries generalizing core with
  | nil => rfl
  | cons entry entries ih => exact ih (core.register entry.1 entry.2)

end TouchTracking
