import JavacLaunch.Number.Binary64

/-!
# JavacLaunch.Toml.Value

The data of a TOML document.
-/

namespace JavacLaunch
namespace Toml

/-- A table keeps its entries in the order in which the document brings them in. A date or time
keeps its text. -/
inductive Value where
  | string (s : String)
  | integer (n : Int)
  | float (x : Binary64)
  | boolean (b : Bool)
  | dateTime (text : String)
  | array (items : List Value)
  | table (entries : List (String × Value))
deriving Repr

abbrev Table := List (String × Value)

/-- Reads something off the front of a text and returns the text after it. -/
abbrev Reads (α : Type) := List Char → Option (α × List Char)

end Toml
end JavacLaunch
