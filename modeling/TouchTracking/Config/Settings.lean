import TouchTracking.Config.File
import TouchTracking.Squares.Settings
import TouchTracking.Text.LowerCase
import TouchTracking.Tracking.Tracker

/-! The settings in force. A setting comes from its environment variable, else from the file, else from
the standard settings. A variable of blanks counts as missing, except the one for the delay, which has
to be a number whenever it is there. -/
namespace TouchTracking.Config

structure Settings where
  /-- Milliseconds between ticks. -/
  delay : Nat
  kind : String
  squares : SquareSettings
  tracker : TrackerParams
  deriving DecidableEq, Repr

/-- The value of a variable, if it is set. -/
abbrev Environment := String → Option String

def standardDelay : Nat := 5

def longestDelay : Nat := 10000

def standardKind : String := "synthetic"

def kinds : List String := ["synthetic"]

inductive LoadError
  | unreadable (reason : String)
  | malformed
  | notNatural (name : String)
  | notMilliseconds
  | unknownKind (kind : String)
  | squares (error : SquareSettings.SettingsError)
  | tracker (error : SizeError)
  | delayTooLong
  deriving DecidableEq, Repr

def delayVariable : String := "TOUCHD_DELAY_MS"

def kindVariable : String := "TOUCHD_SOURCE"

def pathVariable : String := "TOUCHD_CONFIG"

def minSizeVariable : String := "TOUCHD_MIN_SIZE"

def maxSizeVariable : String := "TOUCHD_MAX_SIZE"

def minAgeVariable : String := "TOUCHD_MIN_AGE"

def maxAgeVariable : String := "TOUCHD_MAX_AGE"

/-- Every variable that bears on the settings. -/
def variableNames : List String :=
  [pathVariable, minSizeVariable, maxSizeVariable, minAgeVariable, maxAgeVariable, delayVariable,
    kindVariable]

/-- The message for a file with the given path. -/
def LoadError.message (path : String) : LoadError → String
  | .unreadable reason => s!"failed to read config file {path}: {reason}"
  | .malformed => s!"invalid config file {path}"
  | .notNatural name => s!"{name} must be a non-negative integer"
  | .notMilliseconds => s!"{delayVariable} must be an integer number of milliseconds"
  | .unknownKind kind => s!"source.kind '{kind}' is not one of: " ++ ", ".intercalate kinds
  | .squares error => s!"invalid source settings: {error.failure.text}"
  | .tracker error =>
    "invalid tracker settings: " ++ (Failure.mk .configuration error.message).text
  | .delayTooLong => s!"delay_ms must be at most {longestDelay}"

/-- The settings of a file over the standard ones. -/
def Settings.ofFile (file : FileSettings) : Settings :=
  let squares := SquareSettings.standard
  let tracker := TrackerParams.standard
  { delay := file.delay.getD standardDelay
    kind := file.source.kind.getD standardKind
    squares :=
      { width := file.source.width.getD squares.width
        height := file.source.height.getD squares.height
        blobs := file.source.blobs.getD squares.blobs
        size := file.source.size.getD squares.size
        speed := file.source.speed.getD squares.speed
        seed := file.source.seed.getD squares.seed }
    tracker :=
      { minSize := file.tracker.minSize.getD tracker.minSize
        maxSize := file.tracker.maxSize.getD tracker.maxSize
        minAge := file.tracker.minAge.getD tracker.minAge
        maxAge := file.tracker.maxAge.getD tracker.maxAge } }

/-- The number in a variable, or the given one if the variable is missing or blank. -/
def naturalVariable (environment : Environment) (name : String) (fallback : Nat) :
    Except LoadError Nat :=
  match environment name with
  | none => .ok fallback
  | some text =>
    if Text.isBlankText text then .ok fallback
    else match Decimal.readNatural (1 <<< 32) (Text.trim text) with
      | some n => .ok n
      | none => .error (.notNatural name)

def delayOf (environment : Environment) (fallback : Nat) : Except LoadError Nat :=
  match environment delayVariable with
  | none => .ok fallback
  | some text =>
    match Decimal.readNatural (1 <<< 64) (Text.trim text) with
    | some n => .ok n
    | none => .error .notMilliseconds

def kindOf (environment : Environment) (fallback : String) : String :=
  match environment kindVariable with
  | none => fallback
  | some text => if Text.isBlankText text then fallback else Text.trim text

/-- Puts the variables over the settings. -/
def Settings.override (environment : Environment) (settings : Settings) :
    Except LoadError Settings := do
  let minSize ← naturalVariable environment minSizeVariable settings.tracker.minSize
  let maxSize ← naturalVariable environment maxSizeVariable settings.tracker.maxSize
  let minAge ← naturalVariable environment minAgeVariable settings.tracker.minAge
  let maxAge ← naturalVariable environment maxAgeVariable settings.tracker.maxAge
  let delay ← delayOf environment settings.delay
  return { settings with
    delay
    kind := kindOf environment settings.kind
    tracker := ⟨minSize, maxSize, minAge, maxAge⟩ }

/-- The kind in lower case, once all settings fit together. -/
def Settings.check (settings : Settings) : Except LoadError Settings :=
  let kind := Text.lowerCase settings.kind
  if kind ∉ kinds then .error (.unknownKind kind)
  else match settings.squares.validate, settings.tracker.validate with
    | .error error, _ => .error (.squares error)
    | .ok (), .error error => .error (.tracker error)
    | .ok (), .ok () =>
      if longestDelay < settings.delay then .error .delayTooLong else .ok { settings with kind }

def Settings.layer (file : FileSettings) (environment : Environment) : Except LoadError Settings :=
  ((Settings.ofFile file).override environment).bind Settings.check

/-- A file by its path, with its bytes or the reason why it cannot be read. -/
structure ConfigFile where
  path : String
  contents : Except String ByteArray

def notText : String := "stream did not contain valid UTF-8"

def ConfigFile.settings (file : ConfigFile) : Except LoadError FileSettings :=
  match file.contents with
  | .error reason => .error (.unreadable reason)
  | .ok bytes =>
    match String.fromUTF8? bytes with
    | none => .error (.unreadable notText)
    | some text =>
      match FileSettings.read file.path text with
      | none => .error .malformed
      | some settings => .ok settings

/-- The settings from a file, if there is one, and the environment. -/
def Settings.load (file : Option ConfigFile) (environment : Environment) :
    Except LoadError Settings :=
  match file with
  | none => Settings.layer .empty environment
  | some file => file.settings.bind fun settings => Settings.layer settings environment

end TouchTracking.Config
