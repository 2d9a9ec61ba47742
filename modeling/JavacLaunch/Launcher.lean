import JavacLaunch.Detection
import JavacLaunch.Options.Reader
import JavacLaunch.Report
import JavacLaunch.Settings.Schema

/-!
# JavacLaunch.Launcher

A run of the launcher. Its stages come in a fixed order and a stage that fails hides all later
ones: the command line is read, then the settings, then the release is found out, and then the
command line of the compilation is shown or takes the launcher's place.

* `plan`: all that is settled before the launcher is replaced.
* `run`: the plan carried out.
* `Outcome.ofRun`: what can be seen of a run from outside.
-/

namespace JavacLaunch

/-- Why a configuration file gives no settings. -/
inductive ConfigError where
  | unreadable (path : Bytes) (refusal : Refusal)
  | bad (path : Bytes) (e : Settings.TextError)
deriving DecidableEq, Repr

def ConfigError.summary : ConfigError → String
  | .unreadable path _ => "Failed to read config file: " ++ Utf8.decodeLossy path
  | .bad path _ => "Failed to parse config file: " ++ Utf8.decodeLossy path

def ConfigError.message (e : ConfigError) : String :=
  e.summary ++ ": " ++
    match e with
    | .unreadable _ refusal => refusal.message
    | .bad _ e => e.message

def Settings.load (host : Host) (path : Bytes) : Except ConfigError Settings :=
  match host.readText path with
  | .error refusal => .error (.unreadable path refusal)
  | .ok text => (Settings.ofText text).mapError (.bad path)

/-- Without a configuration file the standard settings hold. -/
def Options.settings (host : Host) (o : Options) : Except ConfigError Settings :=
  match o.config with
  | some path => Settings.load host path
  | none => .ok .standard

namespace Prepared

/-- The command line for the runtime that a request names. -/
def ofHost (host : Host) (request : Request) (settings : Settings) : Except LaunchError Prepared :=
  (Release.detect host request.runtime).map fun release => build release request settings

/-- What is noted down while a command line is built. -/
def journal (p : Prepared) (request : Request) (settings : Settings) : Journal :=
  .chosen p.release p.invocation.strategy ::
    match p.invocation.strategy with
    | .plugin =>
      ((relocate settings.checkFlags request.args).moved settings.checkFlags).map .moved
    | .bootClassPath => []

end Prepared

/-- The answer of the program that takes the launcher's place. -/
def Invocation.exec (host : Host) (i : Invocation) : Except LaunchError Response :=
  (host.launch i.program i.args).mapError (.exec i.program)

/-- Prepares a command line and lets it take the launcher's place. -/
def Request.run (host : Host) (request : Request) (settings : Settings) :
    Except LaunchError Response :=
  (Prepared.ofHost host request settings).bind fun p => p.invocation.exec host

/-- Why a run fails that was asked for properly. -/
inductive Fault where
  | config (e : ConfigError)
  | launch (e : LaunchError)
deriving DecidableEq, Repr

def Fault.summary : Fault → String
  | .config e => e.summary
  | .launch e => e.message

/-- What brought a fault about, outermost first. Where the TOML reader finds fault with a text, the
position and the quoted line are left out, and what it has to say of a text that is not well-formed
is left out too. -/
def Fault.causes : Fault → List String
  | .config (.unreadable _ refusal) => [refusal.message]
  | .config (.bad _ .malformed) => [Settings.TextError.summary, "TOML parse error"]
  | .config (.bad _ (.schema e)) => [Settings.TextError.summary, "TOML parse error: " ++ e.message]
  | .launch (.versionUndetermined _) => []
  | .launch (.versionQuery _ refusal) => [refusal.message]
  | .launch (.exec _ refusal) => [refusal.message]

/-- Causes are numbered if there are several. -/
def Fault.text (f : Fault) : String :=
  let cause (c : String × Nat) : String :=
    "    " ++ (if f.causes.length = 1 then "" else toString c.2 ++ ": ") ++ c.1
  "Error: " ++ f.summary ++ "\n" ++
    match f.causes with
    | [] => ""
    | causes => "\nCaused by:\n" ++ unlines (causes.zipIdx.map cause)

/-- What a run comes to before anything replaces the launcher. -/
inductive Plan where
  | halt (h : Halt)
  | fail (f : Fault)
  | print (report : String)
  | replace (invocation : Invocation)
deriving DecidableEq, Repr

/-- How a run ends. -/
inductive Ending where
  | halted (h : Halt)
  | failed (f : Fault)
  | printed (report : String)
  | replaced (response : Response)
deriving DecidableEq, Repr

/-- The plan for a command whose settings are known. -/
def Command.plan (host : Host) (c : Command) (settings : Settings) : Plan :=
  match Prepared.ofHost host c.request settings with
  | .error e => .fail (.launch e)
  | .ok p =>
    if c.options.dryRun then .print (p.report c.options.format) else .replace p.invocation

def plan (host : Host) (argv : List Bytes) : Plan :=
  match Command.ofArgv argv with
  | .error h => .halt h
  | .ok c =>
    match c.options.settings host with
    | .error e => .fail (.config e)
    | .ok settings => c.plan host settings

def Plan.carryOut (host : Host) : Plan → Ending
  | .halt h => .halted h
  | .fail f => .failed f
  | .print report => .printed report
  | .replace invocation =>
    match invocation.exec host with
    | .ok response => .replaced response
    | .error e => .failed (.launch e)

def run (host : Host) (argv : List Bytes) : Ending :=
  (plan host argv).carryOut host

/-- What a command whose settings are known notes down. -/
def Command.journal (host : Host) (c : Command) (settings : Settings) : Journal :=
  .ready settings.pluginSince settings.checkFlags.length ::
    Release.detectJournal host c.request.runtime ++
      match Prepared.ofHost host c.request settings with
      | .error _ => []
      | .ok p =>
        p.journal c.request settings ++
          if c.options.dryRun then [] else [.replacing p.invocation.args]

/-- What a run notes down, which is nothing unless it was asked to. -/
def journal (host : Host) (argv : List Bytes) : Journal :=
  match Command.ofArgv argv with
  | .error _ => []
  | .ok c =>
    match c.options.settings host with
    | .error _ => []
    | .ok settings => if c.options.debug then c.journal host settings else []

/-- What can be seen of a run: its output, and its exit code unless a signal ended it. -/
structure Outcome where
  out : Bytes
  err : Bytes
  code : Option Nat
deriving DecidableEq, Repr

/-- Points to the help, after a blank line. The tips and the usage line that may stand between a
refusal and this are left out. -/
def helpHint : String :=
  "\n\nFor more information, try '--help'.\n"

/-- The outcome of a run of a launcher that was called by some name. -/
def Ending.outcome (program : String) : Ending → Outcome
  | .halted (.notice n) => ⟨Utf8.encode (n.streamed program), [], some 0⟩
  | .halted (.usage e) => ⟨[], Utf8.encode (e.streamed ++ helpHint), some 2⟩
  | .failed f => ⟨[], Utf8.encode f.text, some 1⟩
  | .printed report => ⟨Utf8.encode report, [], some 0⟩
  | .replaced response => ⟨response.out, response.err, response.code⟩

/-- The outcome of a run; the journal comes first on standard error. -/
def Outcome.ofRun (host : Host) (argv : List Bytes) : Outcome :=
  let o := (run host argv).outcome (calledAs argv)
  { o with err := Utf8.encode (journal host argv).text ++ o.err }

end JavacLaunch
