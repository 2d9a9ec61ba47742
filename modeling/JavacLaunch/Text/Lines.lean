/-!
# JavacLaunch.Text.Lines

The lines of a text. A line ends at a line feed, and a carriage return right before it belongs to
the line end; nothing else ends a line.
-/

namespace JavacLaunch

/-- The lines between line ends, the one after the last line end included. -/
def lines : List Char → List (List Char)
  | [] => [[]]
  | c :: rest =>
    if c = '\n' then [] :: lines rest
    else if c = '\r' && rest.head? = some '\n' then lines rest
    else
      match lines rest with
      | line :: more => (c :: line) :: more
      | [] => [[c]]

/-- Every item followed by a line feed. -/
def unlines (items : List String) : String :=
  String.join (items.map (· ++ "\n"))

end JavacLaunch
