import TouchTracking.Decimal.Numeral

/-! The options of the daemon. They are taken in their order: the first mistake ends the reading, and
so does a wish for help or for the version. -/
namespace TouchTracking.CommandLine

structure Options where
  /-- Stop after so many ticks. -/
  frames : Option Nat
  /-- Stop at the first failure of a stage. -/
  test : Bool
  /-- Describe a kind of stage and stop. -/
  describe : Option String
  /-- List the kinds of stage and stop. -/
  list : Bool
  deriving DecidableEq, Repr

inductive Reading
  | options (options : Options)
  | help
  | version
  /-- A mistake in the arguments. -/
  | mistake
  deriving DecidableEq, Repr

def Options.none : Options := ⟨Option.none, false, Option.none, false⟩

/-- An argument as the options see it. -/
inductive Argument
  | long (name : String) (value : Option String)
  | short (letter : Char)
  /-- Ends the options. -/
  | divider
  | plain (text : String)
  deriving DecidableEq, Repr

def Argument.ofText (text : String) : Argument :=
  match text.toList with
  | ['-', '-'] => .divider
  | '-' :: '-' :: rest =>
    match rest.span (· ≠ '=') with
    | (name, []) => .long (String.ofList name) Option.none
    | (name, _ :: value) => .long (String.ofList name) (some (String.ofList value))
  | '-' :: letter :: _ => .short letter
  | _ => .plain text

namespace Options

/-- A count of ticks; 64 bits have to hold it. -/
def setFrames (options : Options) (value : String) : Option Options :=
  if options.frames.isSome then Option.none
  else (Decimal.readNatural (1 <<< 64) value).map fun n => { options with frames := some n }

def setDescribe (options : Options) (value : String) : Option Options :=
  if options.describe.isSome then Option.none else some { options with describe := some value }

/-- The option of a name that takes a value. -/
def valued? (name : String) : Option (Options → String → Option Options) :=
  match name with
  | "frames" => some setFrames
  | "describe" => some setDescribe
  | _ => Option.none

/-- The option of a name that stands alone; none may come twice. -/
def setFlag (options : Options) (name : String) : Option Options :=
  match name with
  | "test" => if options.test then Option.none else some { options with test := true }
  | "list" => if options.list then Option.none else some { options with list := true }
  | _ => Option.none

def read (options : Options) : List String → Reading
  | [] => .options options
  | first :: rest =>
    match Argument.ofText first with
    | .plain _ => .mistake
    | .divider => if rest.isEmpty then .options options else .mistake
    | .short 'h' => .help
    | .short 'V' => .version
    | .short _ => .mistake
    | .long name value =>
      match valued? name, value, rest with
      | some set, some value, rest => match set options value with
        | some options => read options rest
        | Option.none => .mistake
      | some set, Option.none, next :: rest => match Argument.ofText next with
        | .plain value => match set options value with
          | some options => read options rest
          | Option.none => .mistake
        | _ => .mistake
      | some _, Option.none, [] => .mistake
      | Option.none, Option.none, rest =>
        if name = "help" then .help
        else if name = "version" then .version
        else match setFlag options name with
          | some options => read options rest
          | Option.none => .mistake
      | Option.none, some _, _ => .mistake

end Options
end TouchTracking.CommandLine
