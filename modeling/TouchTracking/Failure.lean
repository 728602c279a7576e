/-! What a stage reports when it cannot do what it was asked. The kind tells a controller which
recovery applies; the message says what was wrong. -/
namespace TouchTracking

inductive FailureKind
  | configuration
  | resource
  | runtime
  | invalidState
  deriving DecidableEq, Repr

/-- The short word used in status snapshots. -/
def FailureKind.label : FailureKind → String
  | .configuration => "configuration"
  | .resource => "resource"
  | .runtime => "runtime"
  | .invalidState => "invalid_state"

def FailureKind.ofLabel? (label : String) : Option FailureKind :=
  [FailureKind.configuration, .resource, .runtime, .invalidState].find? (·.label == label)

/-- The words that introduce a failure of this kind in front of its message. -/
def FailureKind.heading : FailureKind → String
  | .configuration => "configuration error"
  | .resource => "resource error"
  | .runtime => "runtime error"
  | .invalidState => "invalid state"

structure Failure where
  kind : FailureKind
  message : String
  deriving DecidableEq, Repr

/-- The whole text shown to a reader. -/
def Failure.text (failure : Failure) : String :=
  failure.kind.heading ++ ": " ++ failure.message

end TouchTracking
