import JavacLaunch.Launcher

/-!
# JavacLaunch.Main

The launcher as a program. It starts nothing itself: the banner that the runtime prints for
`-version` is read from standard input, and the command line that would take the launcher's place
is printed, one argument a line.
-/

namespace JavacLaunch

/-- The refusal that an error of the system stands for. -/
def Refusal.ofError : IO.Error → Refusal
  | .permissionDenied .. => .permissionDenied
  | .inappropriateType .. => .isADirectory
  | .invalidArgument .. => .nameTooLong
  | _ => .noSuchFile

/-- What is known of the machine: one file, and the banner of the runtime. -/
def Host.ofParts (file : Except Refusal Bytes) (banner : Bytes) : Host where
  read _ := file
  start _ _ := .ok ⟨[], banner, some 0⟩

def readFile (path : Bytes) : IO (Except Refusal Bytes) := do
  match ← (IO.FS.readBinFile (Utf8.decodeLossy path)).toBaseIO with
  | .ok content => return .ok content.toList
  | .error e => return .error (.ofError e)

/-- All that standard input holds. -/
partial def readAll (input : IO.FS.Stream) (read : Bytes) : IO Bytes := do
  let chunk ← input.read 4096
  if chunk.isEmpty then return read
  readAll input (read ++ chunk.toList)

/-- The machine as a command line needs it. -/
def hostFor (argv : List Bytes) : IO Host := do
  match Command.ofArgv argv with
  | .error _ => return .ofParts (.error .noSuchFile) []
  | .ok c =>
    let file ← match c.options.config with
      | some path => readFile path
      | none => pure (.error .noSuchFile)
    return .ofParts file (← readAll (← IO.getStdin) [])

def write (stream : IO.FS.Stream) (bytes : Bytes) : IO Unit :=
  stream.write bytes.toByteArray

end JavacLaunch

open JavacLaunch

def main (args : List String) : IO UInt32 := do
  let argv := (launcherName :: args).map Utf8.encode
  let host ← hostFor argv
  match plan host argv with
  | .replace invocation =>
    write (← IO.getStderr) (Utf8.encode (journal host argv).text)
    write (← IO.getStdout) (Utf8.encode (unlines invocation.args))
    return 0
  | _ =>
    let outcome := Outcome.ofRun host argv
    write (← IO.getStderr) outcome.err
    write (← IO.getStdout) outcome.out
    return UInt32.ofNat (outcome.code.getD 1)
