import JavacLaunch.CheckFlag
import JavacLaunch.Release
import JavacLaunch.Settings.Basic

/-!
# JavacLaunch.Invocation

The command line of a compilation. From some release on the compiler takes the tool as a plugin;
before that the runtime starts the tool, which then acts as the compiler.
-/

namespace JavacLaunch

/-- What the build system asks for. -/
structure Request where
  runtime : String
  compiler : String
  tool : String
  args : List String
deriving DecidableEq, Repr

inductive Strategy where
  | plugin
  | bootClassPath
deriving DecidableEq, Repr

def Strategy.ofMajor (major : UInt32) (settings : Settings) : Strategy :=
  if settings.pluginSince ≤ major then .plugin else .bootClassPath

/-- A program and its argument vector, the program's own name in front. -/
structure Invocation where
  program : String
  args : List String
  strategy : Strategy
deriving DecidableEq, Repr

/-- A release and the command line that suits it. -/
structure Prepared where
  release : Release
  invocation : Invocation
deriving DecidableEq, Repr

namespace Invocation

/-- Activates the plugin with its flags, a space in front of each. -/
def pluginArgument (settings : Settings) (flags : List String) : String :=
  " ".intercalate (settings.pluginToken :: flags)

/-- The compiler with the tool as a plugin. -/
def plugin (request : Request) (settings : Settings) : Invocation :=
  let relocation := relocate settings.checkFlags request.args
  { program := request.compiler
    args := request.compiler :: settings.exports
      ++ [settings.processorPathFlag, request.tool, settings.compilePolicy,
          pluginArgument settings relocation.flags]
      ++ relocation.rest
    strategy := .plugin }

/-- The tool as the compiler, with its own classes first on the boot class path. The caller's
arguments stay as they are. -/
def bootClassPath (request : Request) (settings : Settings) : Invocation :=
  { program := request.runtime
    args := [request.runtime, settings.bootClassPathFlag ++ request.tool, settings.entryClass]
      ++ settings.checkFlags ++ request.args
    strategy := .bootClassPath }

def build (release : Release) (request : Request) (settings : Settings) : Invocation :=
  match Strategy.ofMajor release.major settings with
  | .plugin => plugin request settings
  | .bootClassPath => bootClassPath request settings

end Invocation

def Prepared.build (release : Release) (request : Request) (settings : Settings) : Prepared :=
  ⟨release, Invocation.build release request settings⟩

end JavacLaunch
