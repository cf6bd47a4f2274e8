import Outbox.Disk.Path

/-!
The command line: which configuration to run with, or a question about the program itself.
Options stand before or behind a value, in a long form and a short one; a value follows an option
as the next argument, or in the same one behind an equals sign, in the short form also directly.
-/

set_option autoImplicit false

namespace Outbox

/-- What the program is asked to do. -/
inductive Invocation where
  | showHelp
  | showVersion
  /-- To run with the configuration of a file, and a text for the log filter in place of the
  configured one. -/
  | serve (config : Path) (logFilter : Option Text)
  deriving DecidableEq, Repr

inductive Choice where
  | config
  | logLevel
  | help
  | version
  deriving DecidableEq, Repr

namespace Choice

def ofLetter? : Char → Option Choice
  | 'c' => some .config
  | 'l' => some .logLevel
  | 'h' => some .help
  | 'V' => some .version
  | _ => none

def ofWord? (word : Text) : Option Choice :=
  let words := [("config", Choice.config), ("log-level", .logLevel), ("help", .help),
    ("version", .version)]
  words.lookup (String.ofList word)

end Choice

/-- The values that arguments have given so far. -/
structure Given where
  config : Option Path
  logFilter : Option Text
  deriving DecidableEq, Repr

namespace Given

def nothing : Given :=
  { config := none, logFilter := none }

/-- Takes the value of an option, each at most once; the path of a configuration is not empty. -/
def take? (g : Given) (choice : Choice) (value : Text) : Option Given :=
  match choice with
  | .config =>
    if g.config.isSome || value = [] then none else some { g with config := some ⟨value⟩ }
  | .logLevel => if g.logFilter.isSome then none else some { g with logFilter := some value }
  | .help | .version => none

def invocation (g : Given) : Invocation :=
  .serve (g.config.getD (.ofString "spool.toml")) g.logFilter

end Given

/-- What one argument means. -/
inductive Argument where
  | valued (choice : Choice) (value : Text)
  /-- An option whose value is the next argument. -/
  | open (choice : Choice)
  | question (answer : Invocation)
  deriving DecidableEq, Repr

namespace Argument

/-- An option in the argument of which its value may stand behind an equals sign. -/
def ofChoice? (choice : Choice) (value : Option Text) : Option Argument :=
  match choice, value with
  | .help, none => some (.question .showHelp)
  | .version, none => some (.question .showVersion)
  | .help, some _ | .version, some _ => none
  | choice, some value => some (.valued choice value)
  | choice, none => some (.open choice)

def ofLong? (text : Text) : Option Argument :=
  let word := text.takeWhile (· ≠ '=')
  match Choice.ofWord? word with
  | some choice => ofChoice? choice ((text.drop word.length).tail?)
  | none => none

def ofShort? (text : Text) : Option Argument :=
  match text with
  | [] => none
  | letter :: rest =>
    match Choice.ofLetter? letter with
    | some .help => some (.question .showHelp)
    | some .version => some (.question .showVersion)
    | some choice =>
      match rest with
      | [] => some (.open choice)
      | '=' :: value => some (.valued choice value)
      | value => some (.valued choice value)
    | none => none

/-- An argument from its text. There are none but options. -/
def ofText? : Text → Option Argument
  | '-' :: '-' :: text => ofLong? text
  | '-' :: text => ofShort? text
  | _ => none

end Argument

namespace Invocation

/-- Whether an argument can be the value of the option before it: an option cannot. -/
def isValue (text : Text) : Bool :=
  text.head? ≠ some '-' || text = ['-']

/-- What arguments ask for, after those that have been taken in; nothing if they are not
understood. A question is answered before what follows it is looked at, and two hyphens may end
the options. -/
def ofRest? (g : Given) : List Text → Option Invocation
  | [] | [['-', '-']] => some g.invocation
  | text :: rest =>
    match Argument.ofText? text with
    | none => none
    | some (.question answer) => some answer
    | some (.valued choice value) =>
      match g.take? choice value with
      | some g => ofRest? g rest
      | none => none
    | some (.open choice) =>
      match rest with
      | [] => none
      | value :: rest =>
        if isValue value then
          match g.take? choice value with
          | some g => ofRest? g rest
          | none => none
        else none

def ofArguments? (arguments : List Text) : Option Invocation :=
  ofRest? .nothing arguments

def versionText : String :=
  "spool 0.1.0\n"

def helpText : String :=
  "Read records from stdin, buffer them on disk and ship rolled files to a backend\n\n"
    ++ "Usage: spool [OPTIONS]\n\n"
    ++ "Options:\n"
    ++ "  -c, --config <CONFIG>        Path to configuration file [default: spool.toml]\n"
    ++ "  -l, --log-level <LOG_LEVEL>  Log level (trace, debug, info, warn, error). "
    ++ "Overrides config file\n"
    ++ "  -h, --help                   Print help\n"
    ++ "  -V, --version                Print version\n"

end Invocation

end Outbox
