import JavacLaunch.Text.Quoted

/-!
# JavacLaunch.Text.Terminal

Text from outside that a terminal would not take as text. Messages leave terminal controls out;
notes spell them.

* `shown`: what a message shows of a text. Control characters are left out, white space among them
  excepted, and so are escape sequences and the strings that they open.
* `streamed`: what a stream lets through. It keeps its place in a sequence past white space.
* `spelled`: a text whose terminal controls are written as escapes.
-/

namespace JavacLaunch
namespace Terminal

/-- Where a reader of terminal controls stands. -/
inductive State where
  | text
  /-- After the escape character. -/
  | escape
  /-- In an escape sequence of more than two characters. -/
  | selection
  /-- In a control sequence, which a letter or the like ends. -/
  | control
  /-- In a command to the operating system, which a bell ends. -/
  | command
  /-- At the start of a string for a device. -/
  | device
  | deviceParameters
  | deviceSelection
  /-- In a string that is meant for no screen. -/
  | hidden
deriving DecidableEq, Repr

def isSpacing (c : Char) : Bool :=
  c = '\t' || c = '\n' || c = '\x0c' || c = '\r'

def isControl (c : Char) : Bool :=
  c.toNat < 0x20 || c.toNat = 0x7F

/-- Characters that stand inside a sequence, before the one that ends it. -/
def isIntermediate (c : Char) : Bool :=
  ' ' ≤ c && c ≤ '/'

/-- Characters that end a control sequence. -/
def isFinal (c : Char) : Bool :=
  '@' ≤ c && c ≤ '~'

/-- A hidden string ends at the byte 9C, also where the byte belongs to a longer character. -/
def endsHidden (c : Char) : Bool :=
  (String.utf8EncodeChar c).contains 0x9C

/-- The state after a character that is not shown. -/
def State.next (s : State) (c : Char) : State :=
  if c = '\x1b' then .escape
  else if c = '\x18' || c = '\x1a' then .text
  else
    match s with
    | .text => .text
    | .escape =>
      if c = '[' then .control
      else if c = ']' then .command
      else if c = 'P' then .device
      else if c = 'X' || c = '^' || c = '_' then .hidden
      else if isIntermediate c then .selection
      else if '0' ≤ c && c ≤ '~' then .text
      else .escape
    | .selection => if '0' ≤ c && c ≤ '~' then .text else .selection
    | .control => if isFinal c then .text else .control
    | .command => if c = '\x07' then .text else .command
    | .device =>
      if isIntermediate c then .deviceSelection
      else if '0' ≤ c && c ≤ '?' then .deviceParameters
      else if isFinal c then .hidden
      else .device
    | .deviceParameters =>
      if isIntermediate c then .deviceSelection
      else if '<' ≤ c && c ≤ '~' then .hidden
      else .deviceParameters
    | .deviceSelection => if '0' ≤ c && c ≤ '~' then .hidden else .deviceSelection
    | .hidden => if endsHidden c then .text else .hidden

/-- Whether a character is shown. -/
def State.shows : State → Char → Bool
  | .text, c => isSpacing c || !isControl c
  | .escape, c | .selection, c | .control, c => isSpacing c
  | _, _ => false

/-- A character that is shown ends any sequence. -/
def shownFrom : State → List Char → List Char
  | _, [] => []
  | state, c :: rest =>
    if state.shows c then c :: shownFrom .text rest else shownFrom (state.next c) rest

def shown (s : String) : String :=
  String.ofList (shownFrom .text s.toList)

/-- What a stream lets through of a text. Past a character that was let through it takes text, but
unless the character was outside ASCII it remembers the sequence that it was in, and is in it again
at the next character that is left out. -/
def streamedFrom : State → Bool → List Char → List Char
  | _, _, [] => []
  | state, flowing, c :: rest =>
    if (if flowing then State.text else state).shows c then
      c :: streamedFrom (if c.toNat < 0x80 then state else .text) true rest
    else streamedFrom (state.next c) false rest

def streamed (s : String) : String :=
  String.ofList (streamedFrom .text false s.toList)

/-- A control that a terminal acts on, by its code; white space and most controls stay. -/
def spellChar (c : Char) : String :=
  let n := c.toNat
  if c = '\x07' || c = '\x08' || c = '\x0c' || c = '\x1b' || c = '\x7f' then
    "\\x" ++ String.ofList [Nat.digitChar (n / 16), Nat.digitChar (n % 16)]
  else if 0x80 ≤ n && n ≤ 0x9F then codePointEscape c
  else c.toString

def spelled (s : String) : String :=
  String.join (s.toList.map spellChar)

end Terminal
end JavacLaunch
