import TouchTracking.Binary.Double
import TouchTracking.Json.Value

/-! How often a stage has worked, how long it took, and how long its input had waited. -/
namespace TouchTracking

open Binary (Double)

/-- A count of durations with their total and average in milliseconds. -/
structure Timing where
  count : Nat
  total : Double
  average : Double
  deriving DecidableEq, Repr

def Timing.zero : Timing := ⟨0, Double.zero, Double.zero⟩

/-- A duration in milliseconds: whole seconds and the rest are brought together before scaling. -/
def milliseconds (nanoseconds : Nat) : Double :=
  let seconds := Double.ofInt (nanoseconds / 1000000000 : Nat)
  let rest := Double.ofInt (nanoseconds % 1000000000 : Nat) / Double.ofInt 1000000000
  (seconds + rest) * Double.ofInt 1000

def Timing.record (timing : Timing) (nanoseconds : Nat) : Timing :=
  let count := timing.count + 1
  let total := timing.total + milliseconds nanoseconds
  ⟨count, total, total / Double.ofInt count⟩

structure StageStats where
  process : Timing
  wait : Timing
  deriving DecidableEq, Repr

namespace StageStats

def zero : StageStats := ⟨Timing.zero, Timing.zero⟩

def record (stats : StageStats) (nanoseconds : Nat) : StageStats :=
  { stats with process := stats.process.record nanoseconds }

/-- Time between a notification and the step that answered it. -/
def recordWait (stats : StageStats) (nanoseconds : Nat) : StageStats :=
  { stats with wait := stats.wait.record nanoseconds }

end StageStats
end TouchTracking
