/-!
# UTF-8 — bytes cut into characters and broken pieces

A machine reads one byte at a time.  Between characters it holds nothing; within
one it holds the bits so far, the number of bytes still owed and the range that
the next byte must lie in, which rules out overlong forms, surrogates and values
beyond U+10FFFF at the first byte that shows them.  A byte that does not fit ends
the pending piece as broken, and is then read as the start of the next one.

* `pieces` — the characters and the maximal broken pieces, in order;
* `decode?` — the characters, when nothing is broken;
* `decodeLossy` — the characters, with U+FFFD for each broken piece. -/

namespace TaskConsole.Utf8

/-- A character, or a maximal run of bytes that starts one but does not finish it. -/
inductive Piece where
  | char (c : Char)
  | broken
  deriving DecidableEq

/-- A character of which some bytes are still owed. -/
structure Pending where
  bits : Nat
  -- the number of bytes owed after the next one
  owed : Nat
  low : Nat
  high : Nat

/-- What one byte leads to: a finished piece, or a pending character. -/
inductive Step where
  | done (p : Piece)
  | more (p : Pending)

/-- The first byte of a piece. -/
def lead (b : Nat) : Step :=
  if b < 0x80 then .done (.char (Char.ofNat b))
  else if b < 0xC2 then .done .broken
  else if b < 0xE0 then .more ⟨b - 0xC0, 0, 0x80, 0xBF⟩
  else if b = 0xE0 then .more ⟨0, 1, 0xA0, 0xBF⟩
  else if b = 0xED then .more ⟨0xD, 1, 0x80, 0x9F⟩
  else if b < 0xF0 then .more ⟨b - 0xE0, 1, 0x80, 0xBF⟩
  else if b = 0xF0 then .more ⟨0, 2, 0x90, 0xBF⟩
  else if b < 0xF4 then .more ⟨b - 0xF0, 2, 0x80, 0xBF⟩
  else if b = 0xF4 then .more ⟨4, 2, 0x80, 0x8F⟩
  else .done .broken

/-- A byte in the range that a pending character expects. -/
def Pending.admits (p : Pending) (b : Nat) : Bool := p.low ≤ b && b ≤ p.high

/-- A further byte of a pending character. -/
def Pending.push (p : Pending) (b : Nat) : Step :=
  let bits := p.bits * 64 + (b - 0x80)
  match p.owed with
  | 0 => .done (.char (Char.ofNat bits))
  | owed + 1 => .more ⟨bits, owed, 0x80, 0xBF⟩

/-- The pieces of a byte sequence, from a pending character or from between two. -/
def piecesFrom : Option Pending → List UInt8 → List Piece
  | none, [] => []
  | some _, [] => [.broken]
  | none, b :: bs =>
    match lead b.toNat with
    | .done p => p :: piecesFrom none bs
    | .more q => piecesFrom (some q) bs
  | some q, b :: bs =>
    if q.admits b.toNat then
      match q.push b.toNat with
      | .done p => p :: piecesFrom none bs
      | .more r => piecesFrom (some r) bs
    else
      match lead b.toNat with
      | .done p => .broken :: p :: piecesFrom none bs
      | .more r => .broken :: piecesFrom (some r) bs

/-- The pieces of a byte sequence. -/
def pieces (bs : List UInt8) : List Piece := piecesFrom none bs

/-- The character of a piece that is one. -/
def Piece.char? : Piece → Option Char
  | .char c => some c
  | .broken => none

/-- The characters of a byte sequence without broken pieces. -/
def decode? (bs : List UInt8) : Option (List Char) := (pieces bs).mapM Piece.char?

/-- The characters of a byte sequence, U+FFFD standing for each broken piece. -/
def decodeLossy (bs : List UInt8) : List Char :=
  (pieces bs).map fun p => p.char?.getD (Char.ofNat 0xFFFD)

/-- The bytes of a text. -/
def encode (s : String) : List UInt8 := s.toUTF8.toList

end TaskConsole.Utf8
