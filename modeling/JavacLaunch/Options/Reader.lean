import JavacLaunch.Options.Basic

/-!
# JavacLaunch.Options.Reader

Reading a command line of the launcher.

Options are the launcher's own only in front of the runtime; everything behind the tool is passed
on as it is, whatever it looks like. So the command line is cut first: `optionSpan` finds where the
options end, and three operands follow. `readOwn` then reads the launcher's part from left to
right and stops at the first fault.

A value of an option, and an operand, is checked late: when the next known option or operand or
the end is reached, and before that one is looked at. Unknown options, and values for switches,
are faults at once.
-/

namespace JavacLaunch

/-- What an argument looks like. -/
inductive Shape where
  /-- A name after two dashes, and what follows an equals sign. -/
  | long (name : Bytes) (value : Option Bytes)
  /-- Letters after one dash. -/
  | short (letters : Bytes)
  | word
deriving DecidableEq, Repr

def dash : UInt8 := '-'.toUInt8

def equalsSign : UInt8 := '='.toUInt8

/-- Two dashes end the options. -/
def endOfOptions : Bytes := [dash, dash]

/-- A single dash is a word. -/
def Shape.ofBytes : Bytes → Shape
  | a :: b :: rest =>
    if a = dash then
      if b = dash then
        .long (rest.takeWhile (· ≠ equalsSign)) (rest.dropWhile (· ≠ equalsSign)).tail?
      else .short (b :: rest)
    else .word
  | _ => .word

/-- How many arguments in front of the operands are taken for options, whatever they turn out to
be. An argument that is not text is not taken for one. -/
def optionSpan : List Bytes → Nat
  | [] => 0
  | arg :: rest =>
    if !Utf8.isText arg then 0
    else if arg = endOfOptions then 1
    else if Shape.ofBytes arg = .word then 0
    else if (Parameter.ofBytes? arg).isSome then
      match rest with
      | [] => 2
      | _ :: rest => 2 + optionSpan rest
    else 1 + optionSpan rest

/-- How many arguments belong to the launcher, its own name included. -/
def ownSpan (argv : List Bytes) : Nat :=
  1 + optionSpan argv.tail + Operand.all.length

/-- What has been read but not checked. -/
inductive Pending where
  | parameter (p : Parameter) (value : Option Bytes)
  | operand (arg : Bytes)
deriving DecidableEq, Repr

/-- What has been read and checked so far. -/
structure Reading where
  debug : Bool
  dryRun : Bool
  format : Option Format
  config : Option Bytes
  operands : List String
  pending : Option Pending
deriving DecidableEq, Repr

namespace Reading

def empty : Reading :=
  ⟨false, false, none, none, [], none⟩

def has (r : Reading) : Parameter → Bool
  | .format => r.format.isSome
  | .config => r.config.isSome

/-- Takes over a value: there must be one, the option must be new, and it must suit the option. -/
def take (r : Reading) (p : Parameter) (value : Option Bytes) : Except UsageError Reading :=
  match value with
  | none => .error (.noValue p)
  | some v =>
    if r.has p then .error (.repeated (.parameter p))
    else if v = [] then .error (.noValue p)
    else
      match p with
      | .config => .ok { r with config := some v }
      | .format =>
        match Format.ofBytes? v with
        | some f => .ok { r with format := some f }
        | none => .error (.badFormat (Utf8.decodeLossy v))

/-- Checks what is pending. -/
def settle (r : Reading) : Except UsageError Reading :=
  let settled := { r with pending := none }
  match r.pending with
  | none => .ok settled
  | some (.parameter p value) => settled.take p value
  | some (.operand arg) =>
    match Utf8.decode? arg with
    | some s => .ok { settled with operands := r.operands ++ [s] }
    | none => .error .badOperand

/-- Checks what is pending, and leaves `p` to be checked. -/
def postpone (r : Reading) (p : Pending) : Except UsageError Reading :=
  r.settle.map fun r => { r with pending := some p }

/-- A word is the value of an option that waits for one, or an operand. -/
def word (r : Reading) (arg : Bytes) : Except UsageError Reading :=
  match r.pending with
  | some (.parameter p none) => .ok { r with pending := some (.parameter p (some arg)) }
  | _ => r.postpone (.operand arg)

/-- A switch, once what is pending has been checked. -/
def switch (r : Reading) : Switch → Except Halt Reading
  | .debug =>
    if r.debug then .error (.usage (.repeated (.switch .debug))) else .ok { r with debug := true }
  | .dryRun =>
    if r.dryRun then .error (.usage (.repeated (.switch .dryRun)))
    else .ok { r with dryRun := true }
  | .help => .error (.notice .help)
  | .version => .error (.notice .version)

/-- A long option. A value after an equals sign is checked at once. -/
def long (r : Reading) (name : Bytes) (value : Option Bytes) : Except Halt Reading :=
  let option := endOfOptions ++ name
  match Switch.ofBytes? option with
  | some s =>
    match value with
    | some v => .error (.usage (.unexpectedValue s (Utf8.decodeLossy v)))
    | none =>
      match r.settle with
      | .ok r => r.switch s
      | .error e => .error (.usage e)
  | none =>
    match Parameter.ofBytes? option with
    | some p =>
      let read :=
        match value with
        | some v => r.settle.bind fun r => r.take p (some v)
        | none => r.postpone (.parameter p none)
      read.mapError .usage
    | none => .error (.usage (.unknown (Utf8.decodeLossy option)))

/-- Short options. There are two, and both act as soon as they are reached, so the first letter
decides. -/
def short (r : Reading) (letters : Bytes) : Except Halt Reading :=
  let act (n : Notice) : Except Halt Reading :=
    match r.settle with
    | .ok _ => .error (.notice n)
    | .error e => .error (.usage e)
  match Utf8.pieces letters with
  | .char 'h' :: _ => act .summary
  | .char 'V' :: _ => act .version
  | .char c :: _ => .error (.usage (.unknown (String.ofList ['-', c])))
  | _ => .error (.usage (.unknown ("-" ++ Utf8.decodeLossy letters)))

/-- One more argument in front of the end of options. -/
def next (r : Reading) (arg : Bytes) : Except Halt Reading :=
  match Shape.ofBytes arg with
  | .long name value => r.long name value
  | .short letters => r.short letters
  | .word => (r.word arg).mapError .usage

/-- The arguments after the end of options are operands. -/
def operandsOnly (r : Reading) : List Bytes → Except UsageError Reading
  | [] => r.settle
  | arg :: rest =>
    match r.postpone (.operand arg) with
    | .ok r => r.operandsOnly rest
    | .error e => .error e

/-- The launcher's own arguments. -/
def readOwn (r : Reading) : List Bytes → Except Halt Reading
  | [] => r.settle.mapError .usage
  | arg :: rest =>
    if arg = endOfOptions then (r.operandsOnly rest).mapError .usage
    else
      match r.next arg with
      | .ok r => r.readOwn rest
      | .error h => .error h

def options (r : Reading) : Options :=
  ⟨r.debug, r.dryRun, r.format.getD .text, r.config⟩

end Reading

/-- The texts of the arguments that are passed on, or the first one that is not text. -/
def passedOn : List Bytes → Except UsageError (List String)
  | [] => .ok []
  | arg :: rest =>
    match Utf8.decode? arg with
    | some s => (passedOn rest).map (s :: ·)
    | none => .error (.badPassedOn arg)

/-- The command that an argument vector asks for. The arguments that are passed on are looked at
last. -/
def Command.ofArgv (argv : List Bytes) : Except Halt Command :=
  let (own, rest) := argv.splitAt (ownSpan argv)
  match Reading.empty.readOwn own.tail with
  | .error h => .error h
  | .ok r =>
    match r.operands with
    | runtime :: compiler :: tool :: _ =>
      match passedOn rest with
      | .ok args => .ok ⟨r.options, ⟨runtime, compiler, tool, args⟩⟩
      | .error e => .error (.usage e)
    | operands => .error (.usage (.missing (Operand.all.drop operands.length)))

end JavacLaunch
