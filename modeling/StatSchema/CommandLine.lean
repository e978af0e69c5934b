/-
The command line: two options, each at most once and with its value as the next argument, and a
request for help. Arguments are taken from left to right, and the first that is wrong decides.
-/
import StatSchema.Generator

namespace StatSchema.CommandLine

/-- What is wrong with the arguments. -/
inductive UsageError where
  | unrecognized (argument : String)
  | noValue (option : String)
  | repeated (option value : String)
  /-- An option after the request for help. -/
  | afterHelp
  deriving DecidableEq, Repr

/-- What the arguments ask for. -/
inductive Invocation where
  | help
  | generate (request : Request)
  deriving DecidableEq, Repr

/-! ## Reading arguments -/

/-- An option. -/
inductive Choice where
  | schema
  | output
  deriving DecidableEq, Repr

/-- The option that an argument is. -/
def Choice.ofArgument? (argument : String) : Option Choice :=
  if argument = "--schema" then some .schema
  else if argument = "--output" then some .output
  else none

/-- The value of an option in a request. -/
def Choice.value? (choice : Choice) (request : Request) : Option String :=
  match choice with
  | .schema => request.schema
  | .output => request.output

/-- A request with a value of an option. -/
def Choice.assign (choice : Choice) (value : String) (request : Request) : Request :=
  match choice with
  | .schema => { request with schema := some value }
  | .output => { request with output := some value }

/-- Whether an argument asks for help. -/
def asksForHelp (argument : String) : Bool := argument = "--help" || argument = "help"

/-- Whether an argument has the form of an option. -/
def hasDash (argument : String) : Bool := argument.toList.head? = some '-'

/-- What the arguments after `--` ask for, after which there are no options. -/
def invocationAfterDashes (invocation : Invocation) : List String → Except UsageError Invocation
  | [] => .ok invocation
  | argument :: _ => .error (.unrecognized argument)

/-- What arguments ask for, `request` being what they have set before, and `help` telling whether
they have asked for help. -/
def invocationFrom (request : Request) (help : Bool) : List String → Except UsageError Invocation
  | [] => .ok (if help then .help else .generate request)
  | argument :: rest =>
    if asksForHelp argument then invocationFrom request true rest
    else if argument = "--" then
      invocationAfterDashes (if help then .help else .generate request) rest
    else if !hasDash argument then .error (.unrecognized argument)
    else if help then .error .afterHelp
    else match Choice.ofArgument? argument, rest with
      | none, _ => .error (.unrecognized argument)
      | some _, [] => .error (.noValue argument)
      | some choice, value :: rest =>
        if (choice.value? request).isSome then .error (.repeated argument value)
        else invocationFrom (choice.assign value request) false rest

/-- What arguments ask for. -/
def invocation (arguments : List String) : Except UsageError Invocation :=
  invocationFrom {} false arguments

/-! ## Messages -/

/-- The message of an error. -/
def UsageError.message : UsageError → String
  | unrecognized argument => "Unrecognized argument: " ++ argument ++ "\n"
  | noValue option => "No value provided for option " ++ inQuotes option ++ ".\n"
  | repeated option value =>
    "Error parsing option " ++ inQuotes option ++ " with value " ++ inQuotes value ++
      ": duplicate values provided\n"
  | afterHelp => "Trailing arguments are not allowed after `help`."

/-- The help text. -/
def help : String :=
  "Usage: tallies_gen [--schema <schema>] [--output <output>]\n" ++
  "\n" ++
  "Generates a Rust statistics module from a TOML schema.\n" ++
  "\n" ++
  "Options:\n" ++
  "  --schema          schema file to read (defaults to the embedded transaction\n" ++
  "                    log schema)\n" ++
  "  --output          file to write the generated source to (defaults to standard\n" ++
  "                    output)\n" ++
  "  --help, help      display usage information\n"

/-! ## Running -/

/-- What a run leaves: its exit code and what it prints. -/
structure Outcome where
  code : UInt32
  output : String := ""
  errors : String := ""
  deriving DecidableEq, Repr

/-- Runs the generator as the arguments ask. -/
def run {m : Type → Type} [Monad m] (files : FileAccess m) (arguments : List String) :
    m Outcome := do
  match invocation arguments with
  | .error error =>
    return { code := 1
             errors := line (error.message ++ "\nRun tallies_gen --help for more information.") }
  | .ok .help => return { code := 0, output := line help }
  | .ok (.generate request) =>
    match ← request.run files with
    | .ok output => return { code := 0, output }
    | .error error => return { code := 1, errors := line ("Error: " ++ error.message) }

end StatSchema.CommandLine
