import ReleaseAudit.Settings

/-! The command line of the program. -/
namespace ReleaseAudit

inductive Request where
  | check (overrides : Overrides) (asJson verbose : Bool)
  | list (asJson : Bool)
  deriving DecidableEq, Repr

inductive Usage where
  | help
  /-- The version is asked for, under the name of a program. -/
  | version (program : String)
  | noCommand | unknownCommand | unknownArgument | badValue | repeatedArgument | unwantedValue
  deriving DecidableEq, Repr

namespace Usage

/-- Asking for help or for the version is no mistake. -/
def status : Usage → UInt8
  | .help | .version _ => 0
  | _ => 2

def text : Usage → String
  | .help => "Usage: release-index-check <check|list> [OPTIONS]"
  | .version program => program ++ " 0.1.0"
  | .noCommand => "error: a command is required"
  | .unknownCommand => "error: unrecognized subcommand"
  | .unknownArgument => "error: unexpected argument found"
  | .badValue => "error: a value is required or invalid"
  | .repeatedArgument => "error: the argument cannot be used multiple times"
  | .unwantedValue => "error: unexpected value for a flag"

end Usage

namespace CommandLine

/-- An option that takes a value; the values of some may not be empty. -/
structure ValueOption where
  name : String
  refusesEmpty : Bool
  deriving DecidableEq, Repr

structure Flag where
  name : String
  short : Option Char
  deriving DecidableEq, Repr

structure Grammar where
  program : String
  options : List ValueOption
  flags : List Flag
  deriving DecidableEq, Repr

def programName : String := "release-index-check"

def helpFlag : Flag := ⟨"help", some 'h'⟩

def versionFlag : Flag := ⟨"version", some 'V'⟩

def jsonFlag : Flag := ⟨"json", none⟩

def topGrammar : Grammar := ⟨programName, [], [helpFlag, versionFlag]⟩

def checkGrammar : Grammar where
  program := programName ++ "-check"
  options := [⟨"path", true⟩, ⟨"schema-path", true⟩, ⟨"repo-path", true⟩, ⟨"remote", false⟩,
    ⟨"main-branch", false⟩]
  flags := [⟨"batch", none⟩, jsonFlag, ⟨"verbose", some 'v'⟩, helpFlag, versionFlag]

def listGrammar : Grammar := ⟨programName ++ "-list", [], [jsonFlag, helpFlag, versionFlag]⟩

def Grammar.option? (g : Grammar) (name : String) : Option ValueOption :=
  g.options.find? fun o => o.name = name

def Grammar.flag? (g : Grammar) (name : String) : Option Flag := g.flags.find? fun f => f.name = name

def Grammar.short? (g : Grammar) (c : Char) : Option Flag := g.flags.find? fun f => f.short = some c

/-- The options and flags that were given, and the option whose value is not settled yet. -/
structure Given where
  values : List (String × String)
  flags : List String
  pending : Option (ValueOption × Option String)
  deriving DecidableEq, Repr

namespace Given

def nothing : Given := ⟨[], [], none⟩

def take (s : Given) (o : ValueOption) (value : String) : Except Usage Given :=
  if (s.values.lookup o.name).isSome then .error .repeatedArgument
  else if o.refusesEmpty && value = "" then .error .badValue
  else .ok { s with values := s.values ++ [(o.name, value)] }

/-- Settles the option that still waits for its value. -/
def settle (s : Given) : Except Usage Given :=
  match s.pending with
  | none => .ok s
  | some (_, none) => .error .badValue
  | some (o, some value) => { s with pending := none }.take o value

/-- Takes a flag. The two that ask a question end the reading. -/
def flag (s : Given) (program : String) (f : Flag) : Except Usage Given := do
  let s ← s.settle
  if f = helpFlag then .error .help
  else if f = versionFlag then .error (.version program)
  else if s.flags.contains f.name then .error .repeatedArgument
  else return { s with flags := s.flags ++ [f.name] }

def letters (s : Given) (g : Grammar) : List Char → Except Usage Given
  | [] => .ok s
  | c :: cs =>
    match g.short? c with
    | some f => do (← s.flag g.program f).letters g cs
    | none => .error .unknownArgument

def named (s : Given) (g : Grammar) (name : String) (value : Option String) : Except Usage Given :=
  match g.option? name, g.flag? name with
  | some o, _ => do
    let s ← s.settle
    match value with
    | some v => s.take o v
    | none => return { s with pending := some (o, none) }
  | none, some f => if value.isSome then .error .unwantedValue else s.flag g.program f
  | none, none => .error .unknownArgument

/-- Takes a word that belongs to the option before it. -/
def word (s : Given) (w : String) : Except Usage Given :=
  match s.pending with
  | some (o, none) => .ok { s with pending := some (o, some w) }
  | _ => .error .unknownArgument

end Given

def splitValue (cs : List Char) : String × Option String :=
  let name := String.ofList (cs.takeWhile (· ≠ '='))
  match cs.dropWhile (· ≠ '=') with
  | _ :: value => (name, some (String.ofList value))
  | [] => (name, none)

def readArgument (g : Grammar) (s : Given) (arg : String) : Except Usage Given :=
  match arg.toList with
  | '-' :: '-' :: cs =>
    let (name, value) := splitValue cs
    s.named g name value
  | '-' :: c :: cs => s.letters g (c :: cs)
  | _ => s.word arg

/-- Takes the arguments of a command. Nothing may follow the mark that ends the options. -/
def readArguments (g : Grammar) (s : Given) : List String → Except Usage Given
  | [] => s.settle
  | "--" :: rest => if rest = [] then s.settle else .error .unknownArgument
  | arg :: rest => do readArguments g (← readArgument g s arg) rest

def Given.overrides (s : Given) : Overrides where
  manifest := (s.values.lookup "path").map Path.mk
  schema := (s.values.lookup "schema-path").map Path.mk
  repository := (s.values.lookup "repo-path").map Path.mk
  remote := s.values.lookup "remote"
  mainBranch := s.values.lookup "main-branch"
  batch := s.flags.contains "batch"

def readCheck (args : List String) : Except Usage Request := do
  let s ← readArguments checkGrammar .nothing args
  return .check s.overrides (s.flags.contains "json") (s.flags.contains "verbose")

def readList (args : List String) : Except Usage Request := do
  let s ← readArguments listGrammar .nothing args
  return .list (s.flags.contains "json")

def commandNames : List String := ["check", "list", "help"]

def readHelp : List String → Usage
  | [] => .help
  | [name] => if commandNames.contains name then .help else .unknownCommand
  | _ => .unknownCommand

/-- The request that the arguments of the program make. -/
def parse : List String → Except Usage Request
  | [] => .error .noCommand
  | ["--"] => .error .noCommand
  | "--" :: name :: _ =>
    .error (if commandNames.contains name then .unknownArgument else .unknownCommand)
  | arg :: rest =>
    if arg = "check" then readCheck rest
    else if arg = "list" then readList rest
    else if arg = "help" then .error (readHelp rest)
    else if arg.toList.head? = some '-' && arg ≠ "-" then do
      let _ ← readArgument topGrammar .nothing arg
      .error .noCommand
    else .error .unknownCommand

end CommandLine
end ReleaseAudit
