import Whereabouts.Decimal.Reading

/-!
# Command lines

Options are written as `--name value`, `--name=value`, `-n value` or `-nvalue`; a switch has no
value, and several switches may share a dash. Each option is given at most once, and nothing else
may stand on the line.
-/

namespace Whereabouts.Program

/-- What an option takes. -/
inductive Takes where
  | nothing
  | text
  /-- A text that is not empty. -/
  | path
  | number
deriving DecidableEq, Repr

/-- An option. -/
structure Opt where
  name : String
  short : Option Char
  takes : Takes

/-- Why a command line is not run. -/
inductive Usage where
  /-- Help was asked for. -/
  | help
  | unknown (argument : String)
  | missingValue (option : String)
  | badValue (option value : String)
  | repeated (option : String)
  | missing (option : String)
deriving DecidableEq, Repr

def Usage.message : Usage → String
  | .help => ""
  | .unknown argument => "unexpected argument '" ++ argument ++ "'"
  | .missingValue option => "a value is required for '--" ++ option ++ "'"
  | .badValue option value => "invalid value '" ++ value ++ "' for '--" ++ option ++ "'"
  | .repeated option => "the argument '--" ++ option ++ "' cannot be used multiple times"
  | .missing option => "the argument '--" ++ option ++ "' was not provided"

/-- The options that were given, with their values; a switch has an empty one. -/
abbrev Given := List (String × String)

namespace Given

def get? (given : Given) (name : String) : Option String :=
  (List.find? (·.1 == name) given).map (·.2)

def has (given : Given) (name : String) : Bool := (given.get? name).isSome

end Given

def helpOption : Opt := ⟨"help", some 'h', .nothing⟩

def Takes.accepts (takes : Takes) (value : String) : Bool :=
  match takes with
  | .nothing => false
  | .text => true
  | .path => !value.isEmpty
  | .number => (Decimal.natural? (Nat.pow 2 64) value).isSome

def give (o : Opt) (value : String) (given : Given) : Except Usage Given :=
  if o.takes ≠ .nothing ∧ !o.takes.accepts value then .error (.badValue o.name value)
  else if given.has o.name then .error (.repeated o.name)
  else if o.name = "help" then .error .help
  else .ok (given ++ [(o.name, value)])

/-- Whether an argument may be the value of an option before it. -/
def isValue (argument : String) : Bool :=
  match argument.toList with
  | '-' :: _ :: _ => false
  | _ => true

/-- Reads the letters behind a single dash. Where the last of them is an option whose value is still
to come, the option is given back. -/
def letters (options : List Opt) (given : Given) :
    List Char → Except Usage (Given × Option Opt)
  | [] => .ok (given, none)
  | c :: rest =>
    match options.find? (·.short == some c) with
    | none => .error (.unknown (String.ofList ['-', c]))
    | some o =>
      if o.takes = .nothing then do letters options (← give o "" given) rest
      else
        match rest with
        | [] => .ok (given, some o)
        | '=' :: value => do return (← give o (String.ofList value) given, none)
        | value => do return (← give o (String.ofList value) given, none)

/-- Reads an argument that begins with two dashes. -/
def word (options : List Opt) (given : Given) (cs : List Char) :
    Except Usage (Given × Option Opt) :=
  let name := String.ofList (cs.takeWhile (· != '='))
  match options.find? (·.name == name), cs.drop name.length with
  | none, _ => .error (.unknown ("--" ++ String.ofList cs))
  | some o, _ :: value =>
    if o.takes = .nothing then .error (.badValue o.name (String.ofList value))
    else do return (← give o (String.ofList value) given, none)
  | some o, [] =>
    if o.takes = .nothing then do return (← give o "" given, none) else .ok (given, some o)

/-- Reads the arguments; `waiting` is the option whose value comes next. -/
def readArguments (options : List Opt) : Option Opt → Given → List String → Except Usage Given
  | none, given, [] => .ok given
  | some o, _, [] => .error (.missingValue o.name)
  | some o, given, argument :: rest =>
    if isValue argument then do readArguments options none (← give o argument given) rest
    else .error (.missingValue o.name)
  | none, given, argument :: rest =>
    match argument.toList with
    | '-' :: '-' :: c :: cs => do
      let (given, waiting) ← word options given (c :: cs)
      readArguments options waiting given rest
    | ['-', '-'] => if rest.isEmpty then .ok given else .error (.unknown (rest.headD ""))
    | '-' :: c :: cs => do
      let (given, waiting) ← letters options given (c :: cs)
      readArguments options waiting given rest
    | _ => .error (.unknown argument)

def arguments (options : List Opt) (line : List String) : Except Usage Given :=
  readArguments (helpOption :: options) none [] line

def Given.required (given : Given) (name : String) : Except Usage String :=
  match given.get? name with
  | some value => .ok value
  | none => .error (.missing name)

end Whereabouts.Program
