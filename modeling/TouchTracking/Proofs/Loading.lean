import TouchTracking.Config.Settings

/-! What holds of settings that were loaded. Wherever a number comes from, be it a file, a variable or the standard
settings, it fits the width of the field that holds it; and the settings of the squares and those of the tracker are
valid by themselves. -/
namespace TouchTracking

/-- A computation that succeeds does so step by step. -/
theorem bind_eq_ok {ε α β : Type} {first : Except ε α} {rest : α → Except ε β} {value : β}
    (done : first >>= rest = .ok value) : ∃ middle, first = .ok middle ∧ rest middle = .ok value := by
  cases first with
  | error => cases done
  | ok middle => exact ⟨middle, rfl, done⟩

theorem eq_ok_of_toOption {ε α : Type} {result : Except ε α} {value : α} (done : result.toOption = some value) :
    result = .ok value := by
  cases result with
  | error => cases done
  | ok =>
    cases done
    rfl

structure SquareSettings.Bounded (settings : SquareSettings) : Prop where
  width : settings.width < 1 <<< 32
  height : settings.height < 1 <<< 32
  blobs : settings.blobs < 1 <<< 32
  size : settings.size < 1 <<< 32
  speed : settings.speed < 1 <<< 32
  seed : settings.seed < 1 <<< 64

namespace SquareSettings

theorem signed64_of_lt {seed : Nat} (low : seed < 1 <<< 63) : signed64 seed = seed := by
  rw [Nat.one_shiftLeft] at low
  unfold signed64
  rw [Nat.one_shiftLeft, Int.bmod_eq_of_le] <;> omega

theorem signed64_neg {seed : Nat} (high : 1 <<< 63 ≤ seed) (bounded : seed < 1 <<< 64) : signed64 seed < 0 := by
  rw [Nat.one_shiftLeft] at high bounded
  have whole : (seed : Int) % 18446744073709551616 = seed := Int.emod_eq_of_lt (Int.natCast_nonneg _) (by omega)
  unfold signed64
  rw [Nat.one_shiftLeft, Int.bmod_def]
  split <;> omega

end SquareSettings

structure TrackerParams.Bounded (params : TrackerParams) : Prop where
  minSize : params.minSize < 1 <<< 32
  maxSize : params.maxSize < 1 <<< 32
  minAge : params.minAge < 1 <<< 32
  maxAge : params.maxAge < 1 <<< 32

namespace Config

/-- A number that a file may give fits its field. -/
def Below (limit : Nat) (entry : Option Nat) : Prop := ∀ n ∈ entry, n < limit

theorem below_none (limit : Nat) : Below limit none := nofun

theorem Below.getD {limit fallback : Nat} {entry : Option Nat} (below : Below limit entry)
    (standard : fallback < limit) : entry.getD fallback < limit := by
  cases entry with
  | none => exact standard
  | some n => exact below n rfl

theorem below_of_setting {limit : Nat} {data : Option Data} {entry : Option Nat}
    (read : setting (Data.toNatural? limit) data = some entry) : Below limit entry := by
  cases data with
  | none =>
    cases read
    exact below_none limit
  | some data =>
    cases data with
    | null =>
      cases read
      exact below_none limit
    | int value =>
      obtain ⟨m, natural, rfl⟩ := Option.map_eq_some_iff.mp read
      simp only [Data.toNatural?] at natural
      split at natural
      next fits =>
        cases natural
        intro n member
        cases member
        omega
      next => cases natural
    | bool | double | text | list | record | other => cases read

structure SourceSection.Bounded (source : SourceSection) : Prop where
  width : Below (1 <<< 32) source.width
  height : Below (1 <<< 32) source.height
  blobs : Below (1 <<< 32) source.blobs
  size : Below (1 <<< 32) source.size
  speed : Below (1 <<< 32) source.speed
  seed : Below (1 <<< 64) source.seed

structure TrackerSection.Bounded (tracker : TrackerSection) : Prop where
  minSize : Below (1 <<< 32) tracker.minSize
  maxSize : Below (1 <<< 32) tracker.maxSize
  minAge : Below (1 <<< 32) tracker.minAge
  maxAge : Below (1 <<< 32) tracker.maxAge

theorem SourceSection.bounded_empty : SourceSection.empty.Bounded := by
  constructor <;> exact below_none _

theorem TrackerSection.bounded_empty : TrackerSection.empty.Bounded := by
  constructor <;> exact below_none _

theorem SourceSection.bounded_of_ofData {reading : Data.Reading} {data : Data} {source : SourceSection}
    (read : SourceSection.ofData reading data = some source) : source.Bounded := by
  unfold SourceSection.ofData at read
  obtain ⟨fields, -, read⟩ := Option.bind_eq_some_iff.mp read
  split at read
  next =>
    simp only [Option.bind_eq_bind, Option.bind_eq_some_iff] at read
    obtain ⟨_, -, _, width, _, height, _, blobs, _, size, _, speed, _, seed, same⟩ := read
    cases same
    exact ⟨below_of_setting width, below_of_setting height, below_of_setting blobs, below_of_setting size,
      below_of_setting speed, below_of_setting seed⟩
  next => cases read

theorem TrackerSection.bounded_of_ofData {reading : Data.Reading} {data : Data} {tracker : TrackerSection}
    (read : TrackerSection.ofData reading data = some tracker) : tracker.Bounded := by
  unfold TrackerSection.ofData at read
  obtain ⟨fields, -, read⟩ := Option.bind_eq_some_iff.mp read
  split at read
  next =>
    simp only [Option.bind_eq_bind, Option.bind_eq_some_iff] at read
    obtain ⟨_, minSize, _, maxSize, _, minAge, _, maxAge, same⟩ := read
    cases same
    exact ⟨below_of_setting minSize, below_of_setting maxSize, below_of_setting minAge, below_of_setting maxAge⟩
  next => cases read

/-- What a file gives fits, section by section. -/
structure FileSettings.Bounded (file : FileSettings) : Prop where
  source : file.source.Bounded
  tracker : file.tracker.Bounded

/-- A section that is missing or null is an empty one. -/
theorem getD_of_setting {α : Type} {property : α → Prop} {read : Data → Option α} {data : Option Data}
    {entry : Option α} {empty : α} (done : setting read data = some entry) (base : property empty)
    (each : ∀ data value, read data = some value → property value) : property (entry.getD empty) := by
  cases data with
  | none =>
    cases done
    exact base
  | some data =>
    cases data with
    | null =>
      cases done
      exact base
    | bool | int | double | text | list | record | other =>
      obtain ⟨value, found, rfl⟩ := Option.map_eq_some_iff.mp done
      exact each _ value found

theorem FileSettings.bounded_of_ofData {reading : Data.Reading} {data : Data} {file : FileSettings}
    (read : FileSettings.ofData reading data = some file) : file.Bounded := by
  unfold FileSettings.ofData at read
  obtain ⟨fields, -, read⟩ := Option.bind_eq_some_iff.mp read
  split at read
  next =>
    simp only [Option.bind_eq_bind, Option.bind_eq_some_iff] at read
    obtain ⟨_, -, _, source, _, tracker, same⟩ := read
    cases same
    exact ⟨getD_of_setting source SourceSection.bounded_empty fun _ _ => SourceSection.bounded_of_ofData,
      getD_of_setting tracker TrackerSection.bounded_empty fun _ _ => TrackerSection.bounded_of_ofData⟩
  next => cases read

theorem FileSettings.bounded_of_read {path text : String} {file : FileSettings}
    (read : FileSettings.read path text = some file) : file.Bounded := by
  unfold FileSettings.read at read
  split at read
  all_goals
    obtain ⟨data, -, read⟩ := Option.bind_eq_some_iff.mp read
    exact bounded_of_ofData read

theorem ConfigFile.bounded_of_settings {file : ConfigFile} {settings : FileSettings}
    (read : file.settings = .ok settings) : settings.Bounded := by
  unfold ConfigFile.settings at read
  repeat' split at read
  all_goals cases read
  next read => exact FileSettings.bounded_of_read read

namespace Settings

/-- Settings that a pipeline can be asked to run with. -/
structure Sound (settings : Settings) : Prop where
  squares : settings.squares.Bounded
  tracker : settings.tracker.Bounded
  validSquares : settings.squares.validate = .ok ()
  validTracker : settings.tracker.validate = .ok ()

theorem bounded_ofFile {file : FileSettings} (bounded : file.Bounded) :
    (ofFile file).squares.Bounded ∧ (ofFile file).tracker.Bounded := by
  obtain ⟨source, tracker⟩ := bounded
  refine ⟨⟨source.width.getD ?_, source.height.getD ?_, source.blobs.getD ?_, source.size.getD ?_,
    source.speed.getD ?_, source.seed.getD ?_⟩,
    ⟨tracker.minSize.getD ?_, tracker.maxSize.getD ?_, tracker.minAge.getD ?_, tracker.maxAge.getD ?_⟩⟩ <;> decide

theorem lt_of_naturalVariable {environment : Environment} {name : String} {fallback n : Nat}
    (given : naturalVariable environment name fallback = .ok n) (standard : fallback < 1 <<< 32) : n < 1 <<< 32 := by
  unfold naturalVariable at given
  split at given
  next =>
    cases given
    exact standard
  next text _ =>
    split at given
    next =>
      cases given
      exact standard
    next =>
      split at given
      next m read =>
        cases given
        exact of_decide_eq_true (Option.filter_eq_some_iff.mp read).2
      next => cases given

theorem bounded_override {environment : Environment} {settings next : Settings}
    (overridden : settings.override environment = .ok next) (bounded : settings.tracker.Bounded) :
    next.squares = settings.squares ∧ next.tracker.Bounded := by
  unfold override at overridden
  obtain ⟨minSize, first, overridden⟩ := bind_eq_ok overridden
  obtain ⟨maxSize, second, overridden⟩ := bind_eq_ok overridden
  obtain ⟨minAge, third, overridden⟩ := bind_eq_ok overridden
  obtain ⟨maxAge, fourth, overridden⟩ := bind_eq_ok overridden
  obtain ⟨delay, -, overridden⟩ := bind_eq_ok overridden
  cases overridden
  exact ⟨rfl, lt_of_naturalVariable first bounded.minSize, lt_of_naturalVariable second bounded.maxSize,
    lt_of_naturalVariable third bounded.minAge, lt_of_naturalVariable fourth bounded.maxAge⟩

theorem check_ok {settings next : Settings} (checked : settings.check = .ok next) :
    next.squares = settings.squares ∧ next.tracker = settings.tracker ∧
      settings.squares.validate = .ok () ∧ settings.tracker.validate = .ok () := by
  unfold check at checked
  simp only at checked
  split at checked
  next => cases checked
  next =>
    split at checked
    next => cases checked
    next => cases checked
    next squares tracker =>
      split at checked
      next => cases checked
      next =>
        cases checked
        exact ⟨rfl, rfl, squares, tracker⟩

theorem sound_of_layer {file : FileSettings} {environment : Environment} {settings : Settings}
    (bounded : file.Bounded) (layered : layer file environment = .ok settings) : settings.Sound := by
  obtain ⟨middle, overridden, checked⟩ := bind_eq_ok layered
  obtain ⟨squares, tracker⟩ := bounded_ofFile bounded
  obtain ⟨same, narrow⟩ := bounded_override overridden tracker
  obtain ⟨squares_, tracker_, validSquares, validTracker⟩ := check_ok checked
  refine ⟨?_, ?_, ?_, ?_⟩
  · rwa [squares_, same]
  · rwa [tracker_]
  · rwa [squares_]
  · rwa [tracker_]

/-- Settings that were loaded fit their fields, and are valid. -/
theorem sound_of_load {file : Option ConfigFile} {environment : Environment} {settings : Settings}
    (loaded : load file environment = .ok settings) : settings.Sound := by
  cases file with
  | none => exact sound_of_layer ⟨SourceSection.bounded_empty, TrackerSection.bounded_empty⟩ loaded
  | some file =>
    obtain ⟨read, found, layered⟩ := bind_eq_ok loaded
    exact sound_of_layer (ConfigFile.bounded_of_settings found) layered

end Settings

end Config

end TouchTracking
