import JavacLaunch.Invocation
import JavacLaunch.Options.Basic

/-!
# JavacLaunch.Report

What a dry run prints: the arguments, one a line, or one JSON object that holds the release and
the command line.
-/

namespace JavacLaunch
namespace Json

/-- A character of a JSON string. Quotation marks, backslashes and control characters are escaped;
all else stands for itself. -/
def escapeChar (c : Char) : String :=
  match c with
  | '"' => "\\\""
  | '\\' => "\\\\"
  | '\x08' => "\\b"
  | '\t' => "\\t"
  | '\n' => "\\n"
  | '\x0c' => "\\f"
  | '\r' => "\\r"
  | c =>
    if c.toNat < 0x20 then
      "\\u00" ++ String.ofList [Nat.digitChar (c.toNat / 16), Nat.digitChar (c.toNat % 16)]
    else c.toString

def string (s : String) : String :=
  "\"" ++ String.join (s.toList.map escapeChar) ++ "\""

/-- A list with each item on a line of its own, two steps in. -/
def strings : List String → String
  | [] => "[]"
  | items => "[\n    " ++ ",\n    ".intercalate (items.map string) ++ "\n  ]"

/-- An object with each member on a line of its own; the values are JSON already. -/
def object (members : List (String × String)) : String :=
  "\x7b\n  " ++ ",\n  ".intercalate (members.map fun m => string m.1 ++ ": " ++ m.2) ++ "\n\x7d"

end Json

def Strategy.name : Strategy → String
  | .plugin => "plugin"
  | .bootClassPath => "bootclasspath"

namespace Prepared

/-- Members in alphabetical order. -/
def json (p : Prepared) : String :=
  Json.object
    [("args", Json.strings p.invocation.args),
     ("major", toString p.release.major),
     ("program", Json.string p.invocation.program),
     ("strategy", Json.string p.invocation.strategy.name),
     ("version", Json.string p.release.token)]

def report (p : Prepared) : Format → String
  | .text => unlines p.invocation.args
  | .json => p.json ++ "\n"

end Prepared
end JavacLaunch
