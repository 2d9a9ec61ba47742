/-!
# JavacLaunch.CheckFlag

Flags that set the severity of a check, and moving them out of the arguments for the compiler.

As a plugin the tool takes its flags inside one argument. `relocate` merges the caller's flags
behind the standing ones, every flag once, and leaves all other arguments in their order.
-/

namespace JavacLaunch

def isCheckFlag (arg : String) : Bool :=
  "-Xep:".toList.isPrefixOf arg.toList

/-- Check flags, and the arguments that are left for the compiler. -/
structure Relocation where
  flags : List String
  rest : List String
deriving DecidableEq, Repr

/-- Puts a flag at the end unless it is there already. -/
def addFlag (flags : List String) (flag : String) : List String :=
  if flag ∈ flags then flags else flags ++ [flag]

/-- The standing flags and then the caller's, each at its first place. -/
def mergeFlags (standing args : List String) : List String :=
  (args.filter isCheckFlag).foldl addFlag (standing.foldl addFlag [])

/-- An argument that equals a standing flag is taken out as well. -/
def relocate (standing args : List String) : Relocation :=
  let flags := mergeFlags standing args
  ⟨flags, args.filter (· ∉ flags)⟩

/-- The flags that came from the caller. -/
def Relocation.moved (r : Relocation) (standing : List String) : List String :=
  r.flags.filter (· ∉ standing)

end JavacLaunch
