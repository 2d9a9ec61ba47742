import JavacLaunch.Invocation
import JavacLaunch.Text.Lines
import JavacLaunch.Text.Quoted
import JavacLaunch.Text.Terminal

/-!
# JavacLaunch.Journal

What the launcher notes down for debugging, one line for each step.
-/

namespace JavacLaunch

inductive Event where
  | ready (pluginSince : UInt32) (checkFlags : Nat)
  | querying (runtime : String)
  | detected (release : Release)
  | noVersionLine (banner : String)
  | chosen (release : Release) (strategy : Strategy)
  | moved (flag : String)
  | replacing (args : List String)
deriving DecidableEq, Repr

abbrev Journal := List Event

def Strategy.title : Strategy → String
  | .plugin => "Plugin"
  | .bootClassPath => "Bootclasspath"

/-- The part of the launcher that an event belongs to. -/
def Event.target : Event → String
  | .ready .. => "epwrap"
  | .querying .. | .detected .. | .noVersionLine .. => "epwrap::version"
  | .chosen .. | .moved .. | .replacing .. => "epwrap::invocation"

def Event.describe : Event → String
  | .ready since flags =>
    "Plugin invocation from major " ++ toString since ++ ", " ++ toString flags
      ++ " default analysis flags"
  | .querying runtime => "Querying version: " ++ runtime ++ " -version"
  | .detected release =>
    "Detected java " ++ release.token ++ " (major " ++ toString release.major ++ ")"
  | .noVersionLine banner => "No version line in banner: " ++ quote banner
  | .chosen release strategy =>
    "java " ++ release.token ++ " -> " ++ strategy.title ++ " strategy"
  | .moved flag => "Relocated " ++ flag ++ " into plugin argument"
  | .replacing args => "exec " ++ quoteList args

/-- A note spells terminal controls. -/
def Event.line (e : Event) : String :=
  "DEBUG " ++ e.target ++ ": " ++ Terminal.spelled e.describe

def Journal.text (j : Journal) : String :=
  unlines (j.map Event.line)

end JavacLaunch
