import JavacLaunch.Invocation
import JavacLaunch.Text.Lines
import JavacLaunch.Text.Path
import JavacLaunch.Text.Quoted
import JavacLaunch.Text.Terminal

/-!
# JavacLaunch.Options.Basic

What a command line of the launcher asks for, and why it may ask for nothing.

A command line holds the launcher's own options, then three operands (the runtime, the compiler
and the tool), and then arguments that are passed on. Instead of that it may ask for help or for
the version, or be refused.
-/

namespace JavacLaunch

/-- How a dry run shows the command line. -/
inductive Format where
  | text
  | json
deriving DecidableEq, Repr

def Format.name : Format → String
  | .text => "text"
  | .json => "json"

def Format.all : List Format :=
  [.text, .json]

/-- Formats are named exactly. -/
def Format.ofBytes? (name : Bytes) : Option Format :=
  Format.all.find? fun f => Utf8.encode f.name = name

/-- The launcher's own options; a configuration file need not have a name that is text. -/
structure Options where
  debug : Bool
  dryRun : Bool
  format : Format
  config : Option Bytes
deriving DecidableEq, Repr

/-- A command line that has been read. -/
structure Command where
  options : Options
  request : Request
deriving DecidableEq, Repr

/-- Options without a value. -/
inductive Switch where
  | debug
  | dryRun
  | help
  | version
deriving DecidableEq, Repr

/-- Options with a value. -/
inductive Parameter where
  | format
  | config
deriving DecidableEq, Repr

inductive Operand where
  | runtime
  | compiler
  | tool
deriving DecidableEq, Repr

/-- The operands in their order. -/
def Operand.all : List Operand :=
  [.runtime, .compiler, .tool]

def Switch.name : Switch → String
  | .debug => "--debug"
  | .dryRun => "--dry-run"
  | .help => "--help"
  | .version => "--version"

def Parameter.name : Parameter → String
  | .format => "--format"
  | .config => "--config"

/-- Options are named in full. -/
def Switch.ofBytes? (option : Bytes) : Option Switch :=
  [.debug, .dryRun, .help, .version].find? fun (s : Switch) => Utf8.encode s.name = option

def Parameter.ofBytes? (option : Bytes) : Option Parameter :=
  [.format, .config].find? fun (p : Parameter) => Utf8.encode p.name = option

/-- An option together with what stands for its value. -/
def Parameter.usage : Parameter → String
  | .format => "--format <FORMAT>"
  | .config => "--config <FILE>"

def Operand.usage : Operand → String
  | .runtime => "<JAVA>"
  | .compiler => "<JAVAC>"
  | .tool => "<ERROR_PRONE>"

/-- An option that may be given only once. -/
inductive Single where
  | switch (s : Switch)
  | parameter (p : Parameter)
deriving DecidableEq, Repr

def Single.usage : Single → String
  | .switch s => s.name
  | .parameter p => p.usage

def launcherName : String :=
  "epwrap"

/-- The name that the launcher was called by, if it is text. -/
def calledAs (argv : List Bytes) : String :=
  ((argv.head?.bind Path.fileName?).bind Utf8.decode?).getD launcherName

/-- Why a command line is refused. -/
inductive UsageError where
  | missing (operands : List Operand)
  | unknown (option : String)
  | unexpectedValue (switch : Switch) (value : String)
  | repeated (option : Single)
  | noValue (parameter : Parameter)
  | badFormat (value : String)
  | badOperand
  | badPassedOn (arg : Bytes)
deriving DecidableEq, Repr

/-- A text that the command line asks for in place of a compilation. -/
inductive Notice where
  | summary
  | help
  | version
deriving DecidableEq, Repr

/-- Why a command line gives no command. -/
inductive Halt where
  | notice (n : Notice)
  | usage (e : UsageError)
deriving DecidableEq, Repr

namespace UsageError

/-- The formats that there are, on a line of their own. -/
def possibleFormats : String :=
  "\n  [possible values: " ++ ", ".intercalate (Format.all.map Format.name) ++ "]"

/-- The cause of a refusal; what the caller gave is written as `display` has it. -/
def describe (display : String → String) : UsageError → String
  | .missing operands =>
    "the following required arguments were not provided:"
      ++ String.join (operands.map fun o => "\n  " ++ o.usage)
  | .unknown option => "unexpected argument '" ++ display option ++ "' found"
  | .unexpectedValue switch value =>
    "unexpected value '" ++ display value ++ "' for '" ++ switch.name
      ++ "' found; no more were expected"
  | .repeated option => "the argument '" ++ option.usage ++ "' cannot be used multiple times"
  | .noValue parameter =>
    "a value is required for '" ++ parameter.usage ++ "' but none was supplied"
      ++ (if parameter = .format then possibleFormats else "")
  | .badFormat value =>
    "invalid value '" ++ display value ++ "' for '" ++ Parameter.format.usage ++ "'"
      ++ possibleFormats
  | .badOperand => "invalid UTF-8 was detected in one or more arguments"
  | .badPassedOn arg => "compiler argument is not valid UTF-8: " ++ quoteBytes arg

/-- The message as a text, up to its first blank line. The tips and the usage line that may follow
are left out. -/
def message (e : UsageError) : String :=
  "error: " ++ e.describe Terminal.shown

/-- The message as it is written on a stream, as far as its first blank line too. -/
def streamed (e : UsageError) : String :=
  "error: " ++ e.describe Terminal.streamed

end UsageError

namespace Notice

/-- What help begins with; the launcher calls itself as it was called. -/
def opening (program : String) : List String :=
  ["Run javac with Error Prone, adapting the command line to the JDK version",
   "",
   "Usage: " ++ program ++ " [OPTIONS] <JAVA> <JAVAC> <ERROR_PRONE> [JAVAC_ARGS]...",
   "",
   "Arguments:"]

def summaryLines (program : String) : List String :=
  opening program ++
  ["  <JAVA>           Java runtime used to query the version (and run Error Prone on old JDKs)",
   "  <JAVAC>          javac executable",
   "  <ERROR_PRONE>    Error Prone jar or classpath",
   "  [JAVAC_ARGS]...  Arguments passed on to the compiler, verbatim",
   "",
   "Options:",
   "      --debug            Enable debug tracing output to stderr",
   "      --dry-run          Print the compiler command line instead of executing it",
   "      --format <FORMAT>  Output format for --dry-run [default: text] [possible values: text, json]",
   "      --config <FILE>    TOML file overriding the built-in flags and constants",
   "  -h, --help             Print help (see more with '--help')",
   "  -V, --version          Print version"]

def helpLines (program : String) : List String :=
  opening program ++
  ["  <JAVA>",
   "          Java runtime used to query the version (and run Error Prone on old JDKs)",
   "",
   "  <JAVAC>",
   "          javac executable",
   "",
   "  <ERROR_PRONE>",
   "          Error Prone jar or classpath",
   "",
   "  [JAVAC_ARGS]...",
   "          Arguments passed on to the compiler, verbatim",
   "",
   "Options:",
   "      --debug",
   "          Enable debug tracing output to stderr",
   "",
   "      --dry-run",
   "          Print the compiler command line instead of executing it",
   "",
   "      --format <FORMAT>",
   "          Output format for --dry-run",
   "",
   "          Possible values:",
   "          - text: One argument per line (default)",
   "          - json: JSON object for machine parsing",
   "          ",
   "          [default: text]",
   "",
   "      --config <FILE>",
   "          TOML file overriding the built-in flags and constants",
   "",
   "  -h, --help",
   "          Print help (see a summary with '-h')",
   "",
   "  -V, --version",
   "          Print version"]

/-- What a notice says of a launcher of some name. -/
def describe (program : String) : Notice → String
  | .summary => unlines (summaryLines program)
  | .help => unlines (helpLines program)
  | .version => launcherName ++ " 0.1.0\n"

/-- The notice as a text, for a launcher that was called by some name. -/
def message (program : String) (n : Notice) : String :=
  n.describe (Terminal.shown program)

/-- The notice as it is written on a stream. -/
def streamed (program : String) (n : Notice) : String :=
  n.describe (Terminal.streamed program)

end Notice
end JavacLaunch
