import JavacLaunch.Number.Shortest
import JavacLaunch.Settings.Basic
import JavacLaunch.Text.Quoted
import JavacLaunch.Toml.Document

/-!
# JavacLaunch.Settings.Schema

Settings from a TOML document. A document may give any of the eight fields; the others keep their
standard values. Entries are looked at in the order of the document and the first bad one is
reported, but only if the document is well formed to its end.

* `Settings.ofTable`: settings from the entries of a document.
* `Settings.ofText`: settings from the text of a document.
-/

namespace JavacLaunch

namespace Settings

inductive Field where
  | checkFlags
  | exports
  | pluginSince
  | processorPathFlag
  | compilePolicy
  | pluginToken
  | bootClassPathFlag
  | entryClass
deriving DecidableEq, Repr

/-- The key of a field in a document. -/
def Field.key : Field → String
  | .checkFlags => "analysis_flags"
  | .exports => "exports"
  | .pluginSince => "module_system_threshold"
  | .processorPathFlag => "processor_path_flag"
  | .compilePolicy => "compile_policy"
  | .pluginToken => "plugin_token"
  | .bootClassPathFlag => "bootclasspath_prefix"
  | .entryClass => "entry_class"

def Field.all : List Field :=
  [.checkFlags, .exports, .pluginSince, .processorPathFlag, .compilePolicy, .pluginToken,
    .bootClassPathFlag, .entryClass]

def Field.ofKey? (key : String) : Option Field :=
  Field.all.find? (·.key = key)

/-- What a field holds. -/
inductive Wanted where
  | sequence
  | string
  | word
deriving DecidableEq, Repr

/-- What an entry has for a value, as far as messages tell. -/
inductive Found where
  | string (s : String)
  | integer (n : Int)
  | float (x : Binary64)
  | boolean (b : Bool)
  | sequence
  | map
deriving DecidableEq, Repr

def Found.ofValue : Toml.Value → Found
  | .string s => .string s
  | .integer n => .integer n
  | .float x => .float x
  | .boolean b => .boolean b
  | .array _ => .sequence
  | .dateTime _ | .table _ => .map

/-- Why an entry is bad. -/
inductive SchemaError where
  | unknownField (key : String)
  | wrongType (found : Found) (wanted : Wanted)
  | outOfRange (n : Int)
deriving DecidableEq, Repr

/-- Why a text gives no settings. -/
inductive TextError where
  | malformed
  | schema (e : SchemaError)
deriving DecidableEq, Repr

def stringOf : Toml.Value → Except SchemaError String
  | .string s => .ok s
  | v => .error (.wrongType (.ofValue v) .string)

/-- The strings of an array, or what is wrong with its first item that is none. -/
def stringsOf : Toml.Value → Except SchemaError (List String)
  | .array items => items.mapM stringOf
  | v => .error (.wrongType (.ofValue v) .sequence)

def wordOf : Toml.Value → Except SchemaError UInt32
  | .integer n =>
    if 0 ≤ n && n < UInt32.size then .ok (UInt32.ofNat n.toNat) else .error (.outOfRange n)
  | v => .error (.wrongType (.ofValue v) .word)

/-- The settings with one field replaced. -/
def set (s : Settings) (v : Toml.Value) : Field → Except SchemaError Settings
  | .checkFlags => (stringsOf v).map fun x => { s with checkFlags := x }
  | .exports => (stringsOf v).map fun x => { s with exports := x }
  | .pluginSince => (wordOf v).map fun x => { s with pluginSince := x }
  | .processorPathFlag => (stringOf v).map fun x => { s with processorPathFlag := x }
  | .compilePolicy => (stringOf v).map fun x => { s with compilePolicy := x }
  | .pluginToken => (stringOf v).map fun x => { s with pluginToken := x }
  | .bootClassPathFlag => (stringOf v).map fun x => { s with bootClassPathFlag := x }
  | .entryClass => (stringOf v).map fun x => { s with entryClass := x }

/-- The settings with one entry of a document taken over. -/
def setEntry (s : Settings) (entry : String × Toml.Value) : Except SchemaError Settings :=
  match Field.ofKey? entry.1 with
  | some field => s.set entry.2 field
  | none => .error (.unknownField entry.1)

def ofTable (entries : Toml.Table) : Except SchemaError Settings :=
  entries.foldlM setEntry standard

def ofText (text : String) : Except TextError Settings :=
  match Toml.Table.ofText? text with
  | none => .error .malformed
  | some entries => (ofTable entries).mapError .schema

def Wanted.describe : Wanted → String
  | .sequence => "a sequence"
  | .string => "a string"
  | .word => "u32"

def Found.describe : Found → String
  | .string s => "string " ++ quote s
  | .integer n => "integer `" ++ toString n ++ "`"
  | .float x => "floating point `" ++ x.toText ++ "`"
  | .boolean b => "boolean `" ++ (if b then "true" else "false") ++ "`"
  | .sequence => "sequence"
  | .map => "map"

def SchemaError.message : SchemaError → String
  | .unknownField key =>
    "unknown field `" ++ key ++ "`, expected one of "
      ++ ", ".intercalate (Field.all.map fun f => "`" ++ f.key ++ "`")
  | .wrongType found wanted =>
    "invalid type: " ++ found.describe ++ ", expected " ++ wanted.describe
  | .outOfRange n =>
    "invalid value: " ++ (Found.integer n).describe ++ ", expected " ++ Wanted.word.describe

/-- What is wrong with a text, before any detail. -/
def TextError.summary : String :=
  "Invalid adapter configuration"

/-- The message of an error. What is wrong with a text that is not well-formed is left out, and so
is the position of any error. -/
def TextError.message : TextError → String
  | .malformed => summary
  | .schema e => summary ++ ": " ++ e.message

end Settings
end JavacLaunch
