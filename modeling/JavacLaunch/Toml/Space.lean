/-!
# JavacLaunch.Toml.Space

What a TOML document may hold without meaning: spaces and tabs, line ends and comments.
-/

namespace JavacLaunch
namespace Toml

def isSpace (c : Char) : Bool :=
  c = ' ' || c = '\t'

/-- Characters that may stand in a comment, and in any string as they are: all but the control
characters, of which only the tab is allowed. -/
def isPlain (c : Char) : Bool :=
  c = '\t' || (0x20 ≤ c.toNat && c.toNat ≠ 0x7F)

def skipSpace (s : List Char) : List Char :=
  s.dropWhile isSpace

/-- A line ends at a line feed, with or without a carriage return before it. -/
def afterLineEnd? : List Char → Option (List Char)
  | '\n' :: rest => some rest
  | '\r' :: '\n' :: rest => some rest
  | _ => none

/-- Skips spaces, line ends and comments. A character that a comment may not hold is left where
it stands; nothing can be read from it. -/
def skipBlankFrom (inComment : Bool) : List Char → List Char
  | [] => []
  | c :: rest =>
    if c = '\n' then skipBlankFrom false rest
    else if c = '\r' then if rest.head? = some '\n' then skipBlankFrom inComment rest else c :: rest
    else if inComment then if isPlain c then skipBlankFrom true rest else c :: rest
    else if isSpace c then skipBlankFrom false rest
    else if c = '#' then skipBlankFrom true rest
    else c :: rest

def skipBlank (s : List Char) : List Char :=
  skipBlankFrom false s

/-- The end of a statement's line: spaces and a comment may come before it, and the document may
end there. -/
def afterStatement? (s : List Char) : Option (List Char) :=
  let s := skipSpace s
  let s := if s.head? = some '#' then s.tail.dropWhile isPlain else s
  if s = [] then some [] else afterLineEnd? s

end Toml
end JavacLaunch
