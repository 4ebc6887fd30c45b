import TaskConsole.Text.Utf8

/-!
# Slices — parts of a text between two byte offsets

A text is kept as its bytes in UTF-8, and a part of it is named by two offsets that
count bytes: where it begins, and where it ends.  Such a part is a text only if both
offsets lie within the text and between two characters; every other one is a fault,
and ends the program that asks for it.

* `slice` — the part between two offsets, or why there is none;
* `charOffsets` — the characters of a text, with the offsets at which they begin;
* `firstOffset?`, `lastOffset?` — where a character of some class begins. -/

namespace TaskConsole.Text

/-- Why a part of a text cannot be taken. -/
inductive SliceFault where
  -- an offset lies beyond the end of the text
  | outside
  -- the part ends before it begins
  | reversed
  -- an offset lies within a character
  | torn
  deriving DecidableEq, Repr

/-- The part of a text from one offset up to another. -/
def slice (s : String) (i j : Nat) : Except SliceFault String :=
  if s.utf8ByteSize < i ∨ s.utf8ByteSize < j then .error .outside
  else if j < i then .error .reversed
  else if h : String.Pos.Raw.IsValid s ⟨i⟩ ∧ String.Pos.Raw.IsValid s ⟨j⟩ then
    .ok (String.extract ⟨⟨i⟩, h.1⟩ ⟨⟨j⟩, h.2⟩)
  else .error .torn

/-- Characters, each with the offset at which it begins; the first one begins at the
offset that is given. -/
def charOffsets (i : Nat) : List Char → List (Nat × Char)
  | [] => []
  | c :: cs => (i, c) :: charOffsets (i + c.utf8Size) cs

/-- The offset of the first character of a class. -/
def firstOffset? (q : Char → Bool) (s : String) : Option Nat :=
  ((charOffsets 0 s.toList).find? fun x => q x.2).map (·.1)

/-- The offset of the last character of a class. -/
def lastOffset? (q : Char → Bool) (s : String) : Option Nat :=
  ((charOffsets 0 s.toList).reverse.find? fun x => q x.2).map (·.1)

end TaskConsole.Text
