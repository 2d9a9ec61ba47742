import JavacLaunch.Banner
import JavacLaunch.Host.Basic
import JavacLaunch.Journal
import JavacLaunch.Text.Blank

/-!
# JavacLaunch.Detection

Finding out the release of a Java runtime: it is asked for its version, and its banner is read.
Most runtimes print the banner on standard error; what is on standard output is looked at first.
-/

namespace JavacLaunch

/-- Why there is no command line, or why it was not run. -/
inductive LaunchError where
  | versionUndetermined (runtime : String)
  | versionQuery (runtime : String) (refusal : Refusal)
  | exec (program : String) (refusal : Refusal)
deriving DecidableEq, Repr

def LaunchError.message : LaunchError → String
  | .versionUndetermined runtime =>
    "Can't determine java version from `" ++ runtime ++ " -version`"
  | .versionQuery runtime refusal =>
    "Failed to run `" ++ runtime ++ " -version`: " ++ refusal.message
  | .exec program refusal => "Failed to exec " ++ program ++ ": " ++ refusal.message

/-- Output as text, without the blanks at its ends. -/
def trimmedOutput (bytes : Bytes) : String :=
  String.ofList (trimBlank (Utf8.decodeLossy bytes).toList)

/-- The banner of a runtime; its exit code does not matter. -/
def Response.banner (r : Response) : String :=
  trimmedOutput r.out ++ "\n" ++ trimmedOutput r.err

def Host.askVersion (host : Host) (runtime : String) : Except Refusal Response :=
  host.launch runtime [runtime, "-version"]

namespace Release

/-- The release that a runtime's response tells. -/
def ofResponse (runtime : String) (r : Response) : Except LaunchError Release :=
  match Banner.release? r.banner with
  | some release => .ok release
  | none => .error (.versionUndetermined runtime)

def detect (host : Host) (runtime : String) : Except LaunchError Release :=
  match host.askVersion runtime with
  | .error refusal => .error (.versionQuery runtime refusal)
  | .ok response => ofResponse runtime response

/-- What is noted down while a release is found out. -/
def detectJournal (host : Host) (runtime : String) : Journal :=
  .querying runtime ::
    match host.askVersion runtime with
    | .error _ => []
    | .ok response =>
      match Banner.release? response.banner with
      | some release => [.detected release]
      | none => [.noVersionLine response.banner]

end Release
end JavacLaunch
