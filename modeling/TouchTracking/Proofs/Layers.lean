import Mathlib.Data.List.TakeWhile
import TouchTracking.Proofs.Drift
import TouchTracking.Proofs.Loading

/-! The layers of the settings. The settings in force are known before anything is checked: each of them comes from the
first layer that has it, the variables lying over the file and the file over the standard settings. Loading gives
these settings, or an error if a variable is no number or they do not fit together, and never anything else. -/
namespace TouchTracking

theorem SquareSettings.validate_eq_ok_iff {settings : SquareSettings} : settings.validate = .ok () ↔
    1 ≤ settings.width ∧ 1 ≤ settings.height ∧ 1 ≤ settings.size ∧
      settings.size ≤ min settings.width settings.height := by
  constructor
  · intro valid
    obtain ⟨⟨width, height⟩, size, wide, high⟩ := validate_ok valid
    exact ⟨width, height, size, Nat.le_min.mpr ⟨wide, high⟩⟩
  · rintro ⟨width, height, size, fits⟩
    rw [validate, if_neg (by omega), if_neg (by omega)]

theorem TrackerParams.validate_eq_ok_iff {params : TrackerParams} : params.validate = .ok () ↔
    1 ≤ params.minSize ∧ params.minSize ≤ params.maxSize := by
  unfold validate detector Detector.ofSizes
  split
  next none => simp [Except.map, none]
  next =>
    split
    next => simp only [Except.map, reduceCtorEq, false_iff]; omega
    next => simp only [Except.map, true_iff]; omega

namespace Config

/-- The text of a variable without the blanks around it, if it is set to more than blanks. -/
def Environment.text? (environment : Environment) (name : String) : Option String :=
  ((environment name).filter fun text => !Text.isBlankText text).map Text.trim

def Environment.number? (environment : Environment) (limit : Nat) (name : String) : Option Nat :=
  (environment.text? name).bind (Decimal.readNatural limit)

/-- The variables that have to be numbers are, if they are set. Blanks are passed over, except in the variable for the
delay. -/
structure Environment.Numeric (environment : Environment) : Prop where
  natural : ∀ name ∈ [minSizeVariable, maxSizeVariable, minAgeVariable, maxAgeVariable],
    ∀ text, environment name = some text → Text.isBlankText text = false →
      (Decimal.readNatural (1 <<< 32) (Text.trim text)).isSome
  delay : ∀ text, environment delayVariable = some text →
    (Decimal.readNatural (1 <<< 64) (Text.trim text)).isSome

/-- The first layer that has a setting decides it. -/
def inForce {α : Type} (said given : Option α) (standard : α) : α := (said <|> given).getD standard

namespace Settings

def merged (file : FileSettings) (environment : Environment) : Settings where
  delay := inForce (environment.number? (1 <<< 64) delayVariable) file.delay standardDelay
  kind := Text.lowerCase (inForce (environment.text? kindVariable) file.source.kind standardKind)
  squares :=
    { width := file.source.width.getD SquareSettings.standard.width
      height := file.source.height.getD SquareSettings.standard.height
      blobs := file.source.blobs.getD SquareSettings.standard.blobs
      size := file.source.size.getD SquareSettings.standard.size
      speed := file.source.speed.getD SquareSettings.standard.speed
      seed := file.source.seed.getD SquareSettings.standard.seed }
  tracker :=
    { minSize := inForce (environment.number? (1 <<< 32) minSizeVariable) file.tracker.minSize
        TrackerParams.standard.minSize
      maxSize := inForce (environment.number? (1 <<< 32) maxSizeVariable) file.tracker.maxSize
        TrackerParams.standard.maxSize
      minAge := inForce (environment.number? (1 <<< 32) minAgeVariable) file.tracker.minAge
        TrackerParams.standard.minAge
      maxAge := inForce (environment.number? (1 <<< 32) maxAgeVariable) file.tracker.maxAge
        TrackerParams.standard.maxAge }

structure Valid (settings : Settings) : Prop where
  width : 1 ≤ settings.squares.width
  height : 1 ≤ settings.squares.height
  size : 1 ≤ settings.squares.size ∧ settings.squares.size ≤ min settings.squares.width settings.squares.height
  sizes : 1 ≤ settings.tracker.minSize ∧ settings.tracker.minSize ≤ settings.tracker.maxSize
  delay : settings.delay ≤ 10000
  kind : settings.kind = "synthetic"

end Settings

theorem readNatural_blank {text : String} (blank : Text.isBlankText text = true) (limit : Nat) :
    Decimal.readNatural limit (Text.trim text) = none := by
  have nothing : Text.trim text = "" := by
    have gone : text.toList.dropWhile Text.isBlank = [] := List.dropWhile_eq_nil_iff.mpr (List.all_eq_true.mp blank)
    rw [Text.trim, Text.trimmed, gone]
    rfl
  rw [nothing]
  rfl

variable {environment : Environment} {name : String} {fallback n : Nat}

theorem text?_of_unset (unset : environment name = none) : environment.text? name = none := by
  simp [Environment.text?, unset]

theorem text?_of_blank {text : String} (set : environment name = some text)
    (blank : Text.isBlankText text = true) : environment.text? name = none := by
  simp [Environment.text?, set, blank]

theorem text?_of_not_blank {text : String} (set : environment name = some text)
    (blank : Text.isBlankText text = false) : environment.text? name = some (Text.trim text) := by
  simp only [Environment.text?, set, Option.filter, blank, Bool.not_false, if_true, Option.map_some]

theorem naturalVariable_eq_ok_iff : naturalVariable environment name fallback = .ok n ↔
    (∀ text, environment name = some text → Text.isBlankText text = false →
      (Decimal.readNatural (1 <<< 32) (Text.trim text)).isSome) ∧
    (environment.number? (1 <<< 32) name).getD fallback = n := by
  unfold naturalVariable Environment.number?
  generalize (1 <<< 32 : Nat) = limit
  cases set : environment name with
  | none => simp [text?_of_unset set]
  | some text =>
    cases blank : Text.isBlankText text with
    | true => simp [text?_of_blank set blank, blank]
    | false =>
      rw [text?_of_not_blank set blank]
      cases read : Decimal.readNatural limit (Text.trim text) <;> simp [blank, read]

theorem delayOf_eq_ok_iff : delayOf environment fallback = .ok n ↔
    (∀ text, environment delayVariable = some text →
      (Decimal.readNatural (1 <<< 64) (Text.trim text)).isSome) ∧
    (environment.number? (1 <<< 64) delayVariable).getD fallback = n := by
  unfold delayOf Environment.number?
  generalize (1 <<< 64 : Nat) = limit
  cases set : environment delayVariable with
  | none => simp [text?_of_unset set]
  | some text =>
    cases blank : Text.isBlankText text with
    | true => simp [readNatural_blank blank]
    | false =>
      rw [text?_of_not_blank set blank]
      cases read : Decimal.readNatural limit (Text.trim text) <;> simp [read]

theorem kindOf_eq (environment : Environment) (fallback : String) :
    kindOf environment fallback = (environment.text? kindVariable).getD fallback := by
  unfold kindOf
  cases set : environment kindVariable with
  | none => simp [text?_of_unset set]
  | some text =>
    cases blank : Text.isBlankText text with
    | true => simp [text?_of_blank set blank, blank]
    | false => simp [text?_of_not_blank set blank, blank]

theorem inForce_eq {α : Type} (said given : Option α) (standard : α) :
    inForce said given standard = said.getD (given.getD standard) := by
  cases said <;> rfl

namespace Settings

variable {file : FileSettings} {settings next : Settings}

theorem check_eq_ok_iff : settings.check = .ok next ↔
    { settings with kind := Text.lowerCase settings.kind } = next ∧ next.Valid := by
  have known (kind : String) : kind ∈ kinds ↔ kind = "synthetic" := List.mem_singleton
  constructor
  · intro checked
    obtain ⟨squares, tracker, valid_squares, valid_tracker⟩ := check_ok checked
    obtain ⟨width, height, size⟩ := SquareSettings.validate_eq_ok_iff.mp valid_squares
    have sizes := TrackerParams.validate_eq_ok_iff.mp valid_tracker
    simp only [check, valid_squares, valid_tracker] at checked
    split at checked
    next => cases checked
    next listed =>
      split at checked
      next => cases checked
      next short =>
        cases checked
        exact ⟨rfl, width, height, size, sizes, Nat.le_of_not_lt short, (known _).mp (not_not.mp listed)⟩
  · rintro ⟨rfl, valid⟩
    have squares := SquareSettings.validate_eq_ok_iff.mpr ⟨valid.width, valid.height, valid.size⟩
    have tracker := TrackerParams.validate_eq_ok_iff.mpr valid.sizes
    have listed : Text.lowerCase settings.kind ∈ kinds := (known _).mpr valid.kind
    have short : ¬longestDelay < settings.delay := Nat.not_lt.mpr valid.delay
    simp only [check, squares, tracker, if_neg (not_not.mpr listed), if_neg short]

/-- The variables that are read over the settings of a file, one after the other, give all settings at once. -/
theorem override_eq_ok_iff : ((ofFile file).override environment = .ok next) ↔
    environment.Numeric ∧
    { merged file environment with kind := kindOf environment (ofFile file).kind } = next := by
  constructor
  · intro overridden
    unfold override at overridden
    obtain ⟨minSize, first, overridden⟩ := bind_eq_ok overridden
    obtain ⟨maxSize, second, overridden⟩ := bind_eq_ok overridden
    obtain ⟨minAge, third, overridden⟩ := bind_eq_ok overridden
    obtain ⟨maxAge, fourth, overridden⟩ := bind_eq_ok overridden
    obtain ⟨delay, fifth, overridden⟩ := bind_eq_ok overridden
    rw [naturalVariable_eq_ok_iff] at first second third fourth
    rw [delayOf_eq_ok_iff] at fifth
    cases overridden
    refine ⟨⟨?_, fifth.1⟩, ?_⟩
    · simp only [List.forall_mem_cons]
      exact ⟨first.1, second.1, third.1, fourth.1, List.forall_mem_nil _⟩
    · simp only [merged, inForce_eq, ← first.2, ← second.2, ← third.2, ← fourth.2, ← fifth.2]
      rfl
  · rintro ⟨⟨natural, delay⟩, rfl⟩
    simp only [List.forall_mem_cons] at natural
    obtain ⟨minSize, maxSize, minAge, maxAge, -⟩ := natural
    simp only [override, naturalVariable_eq_ok_iff.mpr ⟨minSize, rfl⟩, naturalVariable_eq_ok_iff.mpr ⟨maxSize, rfl⟩,
      naturalVariable_eq_ok_iff.mpr ⟨minAge, rfl⟩, naturalVariable_eq_ok_iff.mpr ⟨maxAge, rfl⟩,
      delayOf_eq_ok_iff.mpr ⟨delay, rfl⟩, merged, inForce_eq]
    rfl

theorem lowered (file : FileSettings) (environment : Environment) : { merged file environment with
    kind := Text.lowerCase (kindOf environment (ofFile file).kind) } = merged file environment := by
  rw [kindOf_eq]
  simp only [merged, inForce_eq]
  rfl

/-- Loading gives the settings in force, exactly when all variables can be read and the settings fit together. -/
theorem layer_eq_ok_iff : layer file environment = .ok settings ↔
    environment.Numeric ∧ merged file environment = settings ∧ settings.Valid := by
  constructor
  · intro layered
    obtain ⟨middle, overridden, checked⟩ := bind_eq_ok layered
    obtain ⟨numeric, rfl⟩ := override_eq_ok_iff.mp overridden
    obtain ⟨rfl, valid⟩ := check_eq_ok_iff.mp checked
    exact ⟨numeric, (lowered ..).symm, valid⟩
  · rintro ⟨numeric, rfl, valid⟩
    rw [layer, override_eq_ok_iff.mpr ⟨numeric, rfl⟩]
    exact check_eq_ok_iff.mpr ⟨lowered .., valid⟩

/-- What the check says of settings depends on their kind in lower case alone. -/
theorem check_congr {settings other : Settings}
    (same : { settings with kind := Text.lowerCase settings.kind } =
      { other with kind := Text.lowerCase other.kind }) : settings.check = other.check := by
  obtain ⟨delay, kind, squares, tracker⟩ := settings
  obtain ⟨delay', kind', squares', tracker'⟩ := other
  simp only [Settings.mk.injEq] at same
  obtain ⟨rfl, same, rfl, rfl⟩ := same
  simp only [check, same]

theorem layer_congr {file' : FileSettings} {environment' : Environment} (numeric : environment.Numeric)
    (numeric' : environment'.Numeric) (same : merged file environment = merged file' environment') :
    layer file environment = layer file' environment' := by
  rw [layer, layer, override_eq_ok_iff.mpr ⟨numeric, rfl⟩, override_eq_ok_iff.mpr ⟨numeric', rfl⟩]
  exact check_congr (((lowered ..).trans same).trans (lowered ..).symm)

/-- What a file says; no file says nothing. -/
def given : Option ConfigFile → Except LoadError FileSettings
  | none => .ok .empty
  | some file => file.settings

theorem load_eq (file : Option ConfigFile) (environment : Environment) :
    load file environment = (given file).bind fun said => layer said environment := by
  cases file <;> rfl

/-- Settings that are loaded are the ones in force, they fit together, and the variables that have to be numbers are.
Whatever a file that can be read says, loading fails in the other cases and in no more, and how it ends depends on
the settings in force and not on the layers that they come from. -/
theorem load_gives_settings_in_force (file : Option ConfigFile) (environment : Environment) :
    (∀ settings, load file environment = .ok settings → ∃ said, given file = .ok said ∧
      environment.Numeric ∧ settings = merged said environment ∧ settings.Valid) ∧
    ∀ said, given file = .ok said →
      ((∃ error, load file environment = .error error) ↔
        ¬environment.Numeric ∨ ¬(merged said environment).Valid) ∧
      ∀ file' environment' said', given file' = .ok said' → environment.Numeric → environment'.Numeric →
        merged said environment = merged said' environment' → load file environment = load file' environment' := by
  refine ⟨fun settings loaded => ?_, fun said read =>
    ⟨?_, fun file' environment' said' read' numeric numeric' same => ?_⟩⟩
  · rw [load_eq] at loaded
    obtain ⟨said, read, layered⟩ := bind_eq_ok loaded
    obtain ⟨numeric, rfl, valid⟩ := layer_eq_ok_iff.mp layered
    exact ⟨said, read, numeric, rfl, valid⟩
  · have layered : load file environment = layer said environment := by
      rw [load_eq, read]
      rfl
    rw [layered, ← not_and_or]
    cases ends : layer said environment with
    | ok settings =>
      obtain ⟨numeric, rfl, valid⟩ := layer_eq_ok_iff.mp ends
      simp [numeric, valid]
    | error error =>
      refine iff_of_true ⟨error, rfl⟩ fun fits => ?_
      cases ends.symm.trans (layer_eq_ok_iff.mpr ⟨fits.1, rfl, fits.2⟩)
  · rw [load_eq, load_eq, read, read']
    exact layer_congr numeric numeric' same

/-- A file that sets the delay, the least side and an age. -/
def nightFile : ConfigFile :=
  ⟨"touchd.toml", .ok "delay_ms = 20\n[tracker]\nmin_size = 6\nmax_age = 9\n".toUTF8⟩

/-- Variables for the least side and for the kind, with blanks around the value, and one of blanks for the age. -/
def nightVariables (least : String) : Environment := fun name =>
  if name = minSizeVariable then some least
  else if name = kindVariable then some "Synthetic "
  else if name = maxAgeVariable then some " "
  else none

/-- The variables count before the file and the file before the standard settings, and a least side above the greatest
one is refused, whichever layer it comes from. -/
theorem load_gives_settings_in_force_night :
    let settings : Settings := ⟨20, "synthetic", .standard, ⟨4, 25, 2, 9⟩⟩
    load (some nightFile) (nightVariables " 4 ") = .ok settings ∧ settings.Valid ∧
      ∃ said, given (some nightFile) = .ok said ∧ (nightVariables " 4 ").Numeric ∧
        settings = merged said (nightVariables " 4 ") ∧
        (¬(nightVariables "26").Numeric ∨ ¬(merged said (nightVariables "26")).Valid) := by
  intro settings
  have loaded : load (some nightFile) (nightVariables " 4 ") = .ok settings := by decide +kernel
  have refused : ∃ error, load (some nightFile) (nightVariables "26") = .error error :=
    ⟨.tracker (.maxBelowMin 25 26), by decide +kernel⟩
  obtain ⟨said, read, numeric, same, valid⟩ :=
    (load_gives_settings_in_force (some nightFile) (nightVariables " 4 ")).1 settings loaded
  have fails := ((load_gives_settings_in_force (some nightFile) (nightVariables "26")).2 said read).1
  exact ⟨loaded, valid, said, read, numeric, same, fails.mp refused⟩

end Settings

end Config

end TouchTracking
