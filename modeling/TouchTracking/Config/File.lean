import TouchTracking.Json.Reader
import TouchTracking.Text.Blank
import TouchTracking.Toml.Reader

/-! Settings as a file gives them. Every setting may be missing; names that are no settings are errors.
The ending of the file's name tells its notation. -/
namespace TouchTracking.Config

structure SourceSection where
  kind : Option String
  width : Option Nat
  height : Option Nat
  blobs : Option Nat
  size : Option Nat
  speed : Option Nat
  seed : Option Nat
  deriving DecidableEq, Repr

structure TrackerSection where
  minSize : Option Nat
  maxSize : Option Nat
  minAge : Option Nat
  maxAge : Option Nat
  deriving DecidableEq, Repr

structure FileSettings where
  delay : Option Nat
  source : SourceSection
  tracker : TrackerSection
  deriving DecidableEq, Repr

def SourceSection.empty : SourceSection := ⟨none, none, none, none, none, none, none⟩

def TrackerSection.empty : TrackerSection := ⟨none, none, none, none⟩

def FileSettings.empty : FileSettings := ⟨none, .empty, .empty⟩

/-- Reads a setting that may be missing or null. -/
def setting {α : Type} (read : Data → Option α) : Option Data → Option (Option α)
  | none => some none
  | some data => data.optional read

def natural32 : Data → Option Nat := Data.toNatural? (1 <<< 32)

def natural64 : Data → Option Nat := Data.toNatural? (1 <<< 64)

def SourceSection.ofData (reading : Data.Reading) (data : Data) : Option SourceSection := do
  let [kind, width, height, blobs, size, speed, seed] ←
    data.fields? reading ["kind", "width", "height", "blobs", "size", "speed", "seed"] | none
  return ⟨← setting Data.toText? kind, ← setting natural32 width, ← setting natural32 height,
    ← setting natural32 blobs, ← setting natural32 size, ← setting natural32 speed,
    ← setting natural64 seed⟩

def TrackerSection.ofData (reading : Data.Reading) (data : Data) : Option TrackerSection := do
  let [minSize, maxSize, minAge, maxAge] ←
    data.fields? reading ["min_size", "max_size", "min_age", "max_age"] | none
  return ⟨← setting natural32 minSize, ← setting natural32 maxSize, ← setting natural32 minAge,
    ← setting natural32 maxAge⟩

def FileSettings.ofData (reading : Data.Reading) (data : Data) : Option FileSettings := do
  let [delay, source, tracker] ← data.fields? reading ["delay_ms", "source", "tracker"] | none
  return ⟨← setting natural64 delay,
    (← setting (SourceSection.ofData reading) source).getD .empty,
    (← setting (TrackerSection.ofData reading) tracker).getD .empty⟩

def jsonReading : Data.Reading := ⟨true, false⟩

def tomlReading : Data.Reading := ⟨true, true⟩

/-- The part of a file's name behind its last point; a point in front begins no ending. -/
def ending (path : String) : Option String :=
  let name := (path.toList.reverse.takeWhile (· ≠ '/'))
  match name.span (· ≠ '.') with
  | (_, []) | (_, ['.']) => none
  | (ending, _) => some (String.ofList ending.reverse)

def isToml (path : String) : Bool :=
  (ending path).any fun ending => ending.toList.map Char.toLower == "toml".toList

/-- What the text of a file says. -/
def FileSettings.read (path text : String) : Option FileSettings :=
  if isToml path then (Toml.read text).bind (ofData tomlReading)
  else (Json.read text).bind (ofData jsonReading)

end TouchTracking.Config
