import JavacLaunch.Text.Utf8

/-!
# JavacLaunch.Host.Basic

What the launcher sees of the machine it runs on: the contents of files, and what programs answer.
-/

namespace JavacLaunch

/-- Why the machine refuses to read a file or to start a program. -/
inductive Refusal where
  | noSuchFile
  | permissionDenied
  | notADirectory
  | isADirectory
  | nameTooLong
  | notText
  | nulInFileName
  | nulInArgument
deriving DecidableEq, Repr

/-- The system's number for a refusal that is its own. -/
def Refusal.code? : Refusal → Option Nat
  | .noSuchFile => some 2
  | .permissionDenied => some 13
  | .notADirectory => some 20
  | .isADirectory => some 21
  | .nameTooLong => some 36
  | .notText | .nulInFileName | .nulInArgument => none

def Refusal.describe : Refusal → String
  | .noSuchFile => "No such file or directory"
  | .permissionDenied => "Permission denied"
  | .notADirectory => "Not a directory"
  | .isADirectory => "Is a directory"
  | .nameTooLong => "File name too long"
  | .notText => "stream did not contain valid UTF-8"
  | .nulInFileName => "file name contained an unexpected NUL byte"
  | .nulInArgument => "nul byte found in provided data"

def Refusal.message (r : Refusal) : String :=
  match r.code? with
  | some n => r.describe ++ " (os error " ++ toString n ++ ")"
  | none => r.describe

/-- What a program wrote, and its exit code unless a signal ended it. -/
structure Response where
  out : Bytes
  err : Bytes
  code : Option Nat
deriving DecidableEq, Repr

structure Host where
  /-- The contents of a file. -/
  read : Bytes → Except Refusal Bytes
  /-- What a program answers to its arguments, its own name not among them. -/
  start : String → List String → Except Refusal Response

namespace Host

def hasNul (s : String) : Bool :=
  s.toList.contains '\x00'

/-- A text file. -/
def readText (host : Host) (path : Bytes) : Except Refusal String :=
  if path.contains 0 then .error .nulInFileName
  else
    match host.read path with
    | .error r => .error r
    | .ok bytes =>
      match Utf8.decode? bytes with
      | some s => .ok s
      | none => .error .notText

/-- Starts a program with an argument vector. A NUL in the program's name or an argument is found
before anything is started. -/
def launch (host : Host) (program : String) (argv : List String) : Except Refusal Response :=
  if hasNul program || argv.any hasNul then .error .nulInArgument
  else host.start program argv.tail

end Host
end JavacLaunch
