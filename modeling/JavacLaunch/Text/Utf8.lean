/-!
# JavacLaunch.Text.Utf8

Bytes as UTF-8 text. Arguments, file names, files and the output of programs are bytes; what the
launcher compares, writes and quotes is text.

`pieces` cuts any byte sequence into characters and ill-formed runs, one byte at a time. A run is
as long as the bytes could still have begun a character, so every reader of bytes (`decode?`,
`decodeLossy`, the quoting of an argument that is not text) sees the same cuts.
-/

namespace JavacLaunch

abbrev Bytes := List UInt8

namespace Utf8

/-- The UTF-8 form of a text. -/
def encode (s : String) : Bytes :=
  s.toList.flatMap String.utf8EncodeChar

inductive Piece where
  | char (c : Char)
  /-- Bytes that begin no character; never empty. -/
  | illFormed (bytes : Bytes)
deriving DecidableEq, Repr

/-- Which bytes may follow. The second byte of some characters has a narrower range, which shuts
out overlong forms, surrogates and numbers past U+10FFFF. -/
inductive Tail where
  | any
  | fromA0
  | upTo9F
  | from90
  | upTo8F
deriving DecidableEq, Repr

def Tail.allows : Tail → UInt8 → Bool
  | .any, b => 0x80 ≤ b && b ≤ 0xBF
  | .fromA0, b => 0xA0 ≤ b && b ≤ 0xBF
  | .upTo9F, b => 0x80 ≤ b && b ≤ 0x9F
  | .from90, b => 0x90 ≤ b && b ≤ 0xBF
  | .upTo8F, b => 0x80 ≤ b && b ≤ 0x8F

/-- A character whose first bytes have been read: the bytes, the bits they carry, how many more
bytes are owed after the next one, and what the next one may be. -/
structure Begun where
  taken : Bytes
  bits : Nat
  after : Nat
  next : Tail
deriving DecidableEq, Repr

/-- The first byte of a character, or a byte that no character begins with. -/
def begin (b : UInt8) : Piece ⊕ Begun :=
  let n := b.toNat
  if n < 0x80 then .inl (.char (Char.ofNat n))
  else if n < 0xC2 then .inl (.illFormed [b])
  else if n < 0xE0 then .inr ⟨[b], n - 0xC0, 0, .any⟩
  else if n = 0xE0 then .inr ⟨[b], 0, 1, .fromA0⟩
  else if n = 0xED then .inr ⟨[b], 13, 1, .upTo9F⟩
  else if n < 0xF0 then .inr ⟨[b], n - 0xE0, 1, .any⟩
  else if n = 0xF0 then .inr ⟨[b], 0, 2, .from90⟩
  else if n < 0xF4 then .inr ⟨[b], n - 0xF0, 2, .any⟩
  else if n = 0xF4 then .inr ⟨[b], 4, 2, .upTo8F⟩
  else .inl (.illFormed [b])

/-- A byte that the begun character allows. -/
def Begun.push (p : Begun) (b : UInt8) : Piece ⊕ Begun :=
  let bits := p.bits * 64 + (b.toNat - 0x80)
  match p.after with
  | 0 => .inl (.char (Char.ofNat bits))
  | n + 1 => .inr ⟨p.taken ++ [b], bits, n, .any⟩

/-- The pieces of the bytes still to come, after a begun character if there is one. A byte that
cannot follow ends the run before it and is read again as a first byte. -/
def piecesFrom : Option Begun → Bytes → List Piece
  | none, [] => []
  | some p, [] => [.illFormed p.taken]
  | none, b :: rest =>
    match begin b with
    | .inl piece => piece :: piecesFrom none rest
    | .inr q => piecesFrom (some q) rest
  | some p, b :: rest =>
    if p.next.allows b then
      match p.push b with
      | .inl piece => piece :: piecesFrom none rest
      | .inr q => piecesFrom (some q) rest
    else
      .illFormed p.taken ::
        match begin b with
        | .inl piece => piece :: piecesFrom none rest
        | .inr q => piecesFrom (some q) rest

def pieces (bytes : Bytes) : List Piece :=
  piecesFrom none bytes

def Piece.char? : Piece → Option Char
  | .char c => some c
  | .illFormed _ => none

/-- The text that the bytes are the UTF-8 form of. -/
def decode? (bytes : Bytes) : Option String :=
  ((pieces bytes).mapM Piece.char?).map String.ofList

def isText (bytes : Bytes) : Bool :=
  (decode? bytes).isSome

/-- An ill-formed run is read as one replacement character. -/
def Piece.lossy : Piece → Char
  | .char c => c
  | .illFormed _ => '\uFFFD'

def decodeLossy (bytes : Bytes) : String :=
  String.ofList ((pieces bytes).map Piece.lossy)

end Utf8
end JavacLaunch
