/-!
# JavacLaunch.Settings.Basic

What the launcher puts into a compiler command line, and from which release on it uses the plugin.
-/

namespace JavacLaunch

structure Settings where
  /-- Check flags for every compilation. -/
  checkFlags : List String
  /-- Directives that open the compiler's own modules to the plugin. -/
  exports : List String
  /-- The first major release whose compiler takes the tool as a plugin. -/
  pluginSince : UInt32
  /-- The flag before the path of the tool. -/
  processorPathFlag : String
  /-- The compilation policy that the plugin needs. -/
  compilePolicy : String
  /-- What activates the plugin; check flags follow it in the same argument. -/
  pluginToken : String
  /-- What stands in front of the path of the tool on the boot class path. -/
  bootClassPathFlag : String
  /-- The main class of the tool as a program. -/
  entryClass : String
deriving DecidableEq, Repr

namespace Settings

/-- A package of the compiler, opened to code outside any module. -/
def openPackage (directive package : String) : String :=
  "--add-" ++ directive ++ "=jdk.compiler/com.sun.tools.javac." ++ package ++ "=ALL-UNNAMED"

def standard : Settings where
  checkFlags := ["-Xep:FunctionalInterfaceMethodChanged:WARN", "-Xep:ReturnValueIgnored:WARN"]
  exports :=
    ["api", "util", "tree", "main", "code", "processing", "parser", "comp"].map
      (openPackage "exports") ++ [openPackage "opens" "comp"]
  pluginSince := 10
  processorPathFlag := "-processorpath"
  compilePolicy := "-XDcompilePolicy=byfile"
  pluginToken := "-Xplugin:ErrorProne"
  bootClassPathFlag := "-Xbootclasspath/p:"
  entryClass := "com.google.errorprone.ErrorProneCompiler"

end Settings

instance : Inhabited Settings := ⟨Settings.standard⟩

end JavacLaunch
