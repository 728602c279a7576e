import TouchTracking.Proofs.Layers

/-! Blank variables. A variable of blanks counts as one that is not set, with one exception: the variable for the
delay has to be a number whenever it is there, so that one of blanks keeps the settings from being loaded. -/
namespace TouchTracking.Config

namespace Environment

/-- The variable is set, but to nothing more than blanks. -/
def Blank (environment : Environment) (name : String) : Prop :=
  (environment name).any Text.isBlankText = true

instance (environment : Environment) (name : String) : Decidable (environment.Blank name) :=
  inferInstanceAs (Decidable (_ = true))

def without (environment : Environment) (names : List String) : Environment :=
  fun name => if name ∈ names then none else environment name

variable {environment : Environment} {names : List String} {name : String}

theorem without_of_mem (listed : name ∈ names) : environment.without names name = none := if_pos listed

theorem without_of_not_mem (kept : name ∉ names) : environment.without names name = environment name := if_neg kept

theorem Blank.exists_text (blank : environment.Blank name) :
    ∃ text, environment name = some text ∧ Text.isBlankText text = true :=
  (Option.any_eq_true ..).mp blank

/-- Blank variables say nothing, and taking them away leaves what the others say. -/
theorem text?_without (blank : ∀ name ∈ names, environment.Blank name) (name : String) :
    (environment.without names).text? name = environment.text? name := by
  by_cases listed : name ∈ names
  · obtain ⟨text, set, empty⟩ := (blank name listed).exists_text
    rw [text?_of_unset (without_of_mem listed), text?_of_blank set empty]
  · simp only [Environment.text?, without_of_not_mem listed]

end Environment

open Environment

variable {environment environment' : Environment} {names : List String} {name : String} {fallback : Nat}

theorem naturalVariable_eq : naturalVariable environment name fallback =
    (environment.text? name).elim (.ok fallback) fun text =>
      (Decimal.readNatural (1 <<< 32) text).elim (.error (.notNatural name)) .ok := by
  unfold naturalVariable
  generalize (1 <<< 32 : Nat) = limit
  cases set : environment name with
  | none => rw [text?_of_unset set]; rfl
  | some text =>
    cases blank : Text.isBlankText text with
    | true => simp [text?_of_blank set blank, blank]
    | false =>
      rw [text?_of_not_blank set blank]
      cases read : Decimal.readNatural limit (Text.trim text) <;> simp [blank, read]

theorem naturalVariable_congr (same : environment'.text? name = environment.text? name) :
    naturalVariable environment' name fallback = naturalVariable environment name fallback := by
  rw [naturalVariable_eq, naturalVariable_eq, same]

theorem kindOf_congr {fallback : String} (same : environment'.text? kindVariable = environment.text? kindVariable) :
    kindOf environment' fallback = kindOf environment fallback := by
  rw [kindOf_eq, kindOf_eq, same]

theorem delayOf_congr (same : environment' delayVariable = environment delayVariable) :
    delayOf environment' fallback = delayOf environment fallback := by
  unfold delayOf
  rw [same]

theorem delayOf_of_unset (unset : environment delayVariable = none) : delayOf environment fallback = .ok fallback := by
  unfold delayOf
  rw [unset]

theorem delayOf_of_blank (blank : environment.Blank delayVariable) :
    delayOf environment fallback = .error .notMilliseconds := by
  obtain ⟨text, set, empty⟩ := blank.exists_text
  unfold delayOf
  rw [set]
  simp only [readNatural_blank empty]

namespace Settings

variable {settings : Settings} {file : FileSettings}

/-- The variables other than the one for the delay bear on the settings by what they say. -/
theorem override_congr (said : ∀ name, environment'.text? name = environment.text? name)
    (delay : environment' delayVariable = environment delayVariable) :
    settings.override environment' = settings.override environment := by
  unfold override
  simp only [naturalVariable_congr (said _), delayOf_congr delay, kindOf_congr (said _)]

/-- A blank delay is an error once the numbers in front of it are read; without the variable these are all that can
go wrong. -/
theorem override_of_blank_delay (said : ∀ name, environment'.text? name = environment.text? name)
    (blank : environment.Blank delayVariable) (unset : environment' delayVariable = none) :
    settings.override environment = (settings.override environment').bind fun _ => .error .notMilliseconds := by
  unfold override
  simp only [naturalVariable_congr (said _), delayOf_of_blank blank, delayOf_of_unset unset]
  generalize naturalVariable environment minSizeVariable _ = minSize
  generalize naturalVariable environment maxSizeVariable _ = maxSize
  generalize naturalVariable environment minAgeVariable _ = minAge
  generalize naturalVariable environment maxAgeVariable _ = maxAge
  cases minSize <;> cases maxSize <;> cases minAge <;> cases maxAge <;> rfl

theorem layer_without (blank : ∀ name ∈ names, environment.Blank name) (kept : delayVariable ∉ names) :
    layer file (environment.without names) = layer file environment := by
  rw [layer, layer, override_congr (text?_without blank) (without_of_not_mem kept)]

/-- With a blank delay no settings come out, and the error is that of the delay unless there is one without it. -/
theorem layer_of_blank_delay (blank : ∀ name ∈ names, environment.Blank name) (listed : delayVariable ∈ names) :
    ∃ error, layer file environment = .error error ∧
      (layer file (environment.without names) = .error error ∨ error = .notMilliseconds) := by
  rw [layer, layer, override_of_blank_delay (text?_without blank) (blank _ listed) (without_of_mem listed)]
  cases (ofFile file).override (environment.without names) with
  | error error => exact ⟨error, rfl, .inl rfl⟩
  | ok settings => exact ⟨.notMilliseconds, rfl, .inr rfl⟩

/-- Taking blank variables away changes nothing as long as the one for the delay is not among them. A blank delay keeps
any settings from being loaded: where they are loaded without it, the error is that the delay is no number. -/
theorem load_without_blanks (file : Option ConfigFile) (environment : Environment) (names : List String)
    (blank : ∀ name ∈ names, environment.Blank name) :
    (delayVariable ∉ names → load file (environment.without names) = load file environment) ∧
    (delayVariable ∈ names → ∃ error, load file environment = .error error ∧
      (load file (environment.without names) = .error error ∨ error = .notMilliseconds)) := by
  rw [load_eq, load_eq]
  constructor
  · intro kept
    simp only [layer_without blank kept]
  · intro listed
    cases given file with
    | error error => exact ⟨error, rfl, .inl rfl⟩
    | ok said => exact layer_of_blank_delay blank listed

/-- Blanks for a size, an age and the kind are passed over; with blanks for the delay as well there is an error. -/
theorem load_without_blanks_sizes :
    let environment (delay : Option String) : Environment := fun name =>
      if name = minSizeVariable then some "" else if name = maxAgeVariable then some " \t\n" else
      if name = kindVariable then some "  " else if name = maxSizeVariable then some " 30 " else
      if name = delayVariable then delay else none
    let names := [minSizeVariable, maxAgeVariable, kindVariable]
    ((∀ name ∈ names, (environment none).Blank name) ∧
      load none ((environment none).without names) = load none (environment none) ∧
      load none (environment none) = .ok ⟨5, "synthetic", .standard, ⟨8, 30, 2, 3⟩⟩) ∧
    (∀ name ∈ delayVariable :: names, (environment (some " ")).Blank name) ∧
      ∃ error, load none (environment (some " ")) = .error error := by
  intro environment names
  have passed : ∀ name ∈ names, (environment none).Blank name := by decide +kernel
  have blank : ∀ name ∈ delayVariable :: names, (environment (some " ")).Blank name := by decide +kernel
  obtain ⟨error, refused, -⟩ := (load_without_blanks none _ _ blank).2 (List.mem_cons_self ..)
  exact ⟨⟨passed, (load_without_blanks none _ _ passed).1 (by decide +kernel), by decide +kernel⟩,
    blank, error, refused⟩

/-- Nothing but a blank delay, and no settings; without it they are the standard ones. -/
theorem load_blank_delay :
    let environment : Environment := fun name => if name = delayVariable then some "" else none
    environment.Blank delayVariable ∧ load none environment = .error .notMilliseconds ∧
    load none (environment.without [delayVariable]) = .ok ⟨5, "synthetic", .standard, .standard⟩ := by
  decide +kernel

end Settings

end TouchTracking.Config
