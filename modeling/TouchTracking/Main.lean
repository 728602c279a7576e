import TouchTracking.CommandLine.Daemon
import TouchTracking.Feed.Follower

/-! The daemon as a program: it reads its options, its environment and its file, keeps the pace of the
ticks, and prints a line for every payload of touches that it sees. -/
open TouchTracking
open TouchTracking.CommandLine
open TouchTracking.Config (ConfigFile Environment Settings)

namespace TouchTracking.Program

def helpText : String := String.intercalate "\n" [
  "Touch tracking daemon",
  "",
  "Usage: touchd [OPTIONS]",
  "",
  "Options:",
  "      --frames <FRAMES>    Stop after this many ticks",
  "      --test               Stop at the first failure of a stage",
  "      --describe <MODULE>  Print the description of a module type and stop",
  "      --list               List the module types and stop",
  "  -h, --help               Print help",
  "  -V, --version            Print version",
  ""]

def versionText : String := "touchd 0.1.0\n"

/-- The variables that are set, out of those that settings can come from. -/
def readEnvironment : IO Environment := do
  let values ← Config.variableNames.mapM fun name => do return (name, ← IO.getEnv name)
  return fun name => (values.lookup name).join

/-- Why the system refuses a file, with the number that it gives the error. -/
def reason : IO.Error → String
  | .noFileOrDirectory .. => "No such file or directory (os error 2)"
  | .permissionDenied .. => "Permission denied (os error 13)"
  | .inappropriateType .. => "Is a directory (os error 21)"
  | error => toString error

def readConfigFile (environment : Environment) : IO (Option ConfigFile) := do
  match environment Config.pathVariable with
  | none => return none
  | some path =>
    try return some ⟨path, .ok (← IO.FS.readBinFile path)⟩
    catch error => return some ⟨path, .error (reason error)⟩

/-- Ticks until none is left, for ever if their count has no end. -/
partial def work (options : Options) (delay : Nat) (ticks : Nat) (follower : Follower)
    (daemon : Daemon) : IO (Except DaemonError Unit) := do
  if options.frames.any (· ≤ ticks) then
    return .ok ()
  IO.sleep delay.toUInt32
  let fabric := { daemon.fabric with clock := ← IO.monoNanosNow }
  match Daemon.tick options.test { daemon with fabric } with
  | .error error => return .error error
  | .ok daemon =>
    let (line, follower) := match daemon.touches? with
      | none => (none, follower)
      | some feed => follower.next feed
    if let some line := line then IO.println line
    work options delay (ticks + 1) follower daemon

def fail (message : String) : IO UInt32 := do
  IO.eprintln s!"Error: {message}"
  return 1

def run (options : Options) : IO UInt32 := do
  let environment ← readEnvironment
  let path := (environment Config.pathVariable).getD ""
  match options.plan (← readConfigFile environment) environment with
  | .error error => fail (error.message path)
  | .ok (.print text) =>
    IO.print text
    return 0
  | .ok (.work settings daemon) =>
    match ← work options settings.delay 0 (Follower.startingAt 0) daemon.start with
    | .ok () => return 0
    | .error error => fail (error.message path)

end TouchTracking.Program

def main (args : List String) : IO UInt32 := do
  match Options.none.read args with
  | .help =>
    IO.print Program.helpText
    return 0
  | .version =>
    IO.print Program.versionText
    return 0
  | .mistake =>
    IO.eprintln "error: the arguments are not valid; try --help"
    return 2
  | .options options => Program.run options
