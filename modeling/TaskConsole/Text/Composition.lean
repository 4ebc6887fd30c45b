import TaskConsole.Text.Composition.Table

/-!
# Canonical composition — one spelling for a letter with its marks

A letter with marks can be written as one character or as several, and marks that do
not touch each other in any order.  In composed form a text has one spelling: its
characters are taken apart, their marks put in order of class, and put together again.

* `combiningClass` — the class of a mark, zero for everything else;
* `decompose` — a text in the smallest parts, the marks in order;
* `compose` — parts put together again;
* `composed` — the composed form, that of Unicode without the characters that never
  are put together again. -/

namespace TaskConsole.Text

/-- The class of a mark; zero when the character is none or starts a letter. -/
def combiningClass (c : Char) : Nat :=
  if c.toNat < 0x300 then 0 else (combiningClassTable.value? c).getD 0

/-! ## Taking apart -/

/-- The letters of a Hangul syllable. -/
def hangulLetters (n : Nat) : List Char :=
  let index := n - 0xAC00
  let front := [Char.ofNat (0x1100 + index / 588), Char.ofNat (0x1161 + index % 588 / 28)]
  if index % 28 = 0 then front else front ++ [Char.ofNat (0x11A7 + index % 28)]

/-- The smallest parts of a character, which are reached in so many steps at most. -/
def charParts : Nat → Char → List Char
  | 0, c => [c]
  | depth + 1, c =>
    if c.toNat < 0xC0 then [c]
    else if 0xAC00 ≤ c.toNat ∧ c.toNat ≤ 0xD7A3 then hangulLetters c.toNat
    else match (compositeTable.run? c).map (·.values) with
    | some [a, b] => charParts depth (Char.ofNat a) ++ [Char.ofNat b]
    | _ => [c]

/-- No composed character is more than so many steps away from its smallest parts. -/
def partDepth : Nat := 4

/-- A mark put among marks that are in order, after those of its own class. -/
def insertMark (c : Char) : List Char → List Char
  | [] => [c]
  | d :: rest =>
    if combiningClass c < combiningClass d then c :: d :: rest else d :: insertMark c rest

/-- Characters in order, with the marks read since the last letter before them. -/
def orderFrom (marks : List Char) : List Char → List Char
  | [] => marks
  | c :: rest =>
    if combiningClass c = 0 then marks ++ c :: orderFrom [] rest
    else orderFrom (insertMark c marks) rest

/-- The smallest parts of a text, the marks after each letter in order of their class. -/
def decompose (cs : List Char) : List Char := orderFrom [] (cs.flatMap (charParts partDepth))

/-! ## Putting together -/

/-- The Hangul syllable of two parts. -/
def hangulPair? (a b : Nat) : Option Char :=
  if 0x1100 ≤ a ∧ a ≤ 0x1112 ∧ 0x1161 ≤ b ∧ b ≤ 0x1175 then
    some (Char.ofNat (0xAC00 + ((a - 0x1100) * 21 + (b - 0x1161)) * 28))
  else if 0xAC00 ≤ a ∧ a ≤ 0xD7A3 ∧ (a - 0xAC00) % 28 = 0 ∧ 0x11A8 ≤ b ∧ b ≤ 0x11C2 then
    some (Char.ofNat (a + (b - 0x11A7)))
  else none

/-- The character that two make together. -/
def pair? (a b : Char) : Option Char :=
  (hangulPair? a.toNat b.toNat).or
    ((compositeTable.runs.find? (·.values == [a.toNat, b.toNat])).map fun r => Char.ofNat r.first)

/-- A letter, and the marks after it that stay apart from it, the last one first. -/
structure Assembly where
  letter : Char
  apart : List Char

/-- The characters of an assembly. -/
def Assembly.chars (s : Assembly) : List Char := s.letter :: s.apart.reverse

/-- A character can reach the letter past the marks that stay apart. -/
def Assembly.reaches (s : Assembly) (c : Char) : Bool :=
  match s.apart with
  | [] => true
  | mark :: _ => combiningClass mark < combiningClass c

/-- A text put together from a letter on. -/
def composeFrom (s : Assembly) : List Char → List Char
  | [] => s.chars
  | c :: rest =>
    match if s.reaches c then pair? s.letter c else none with
    | some letter => composeFrom { s with letter } rest
    | none =>
      if combiningClass c = 0 then s.chars ++ composeFrom ⟨c, []⟩ rest
      else composeFrom { s with apart := c :: s.apart } rest

/-- Parts in order put together; marks before the first letter stay as they are. -/
def compose : List Char → List Char
  | [] => []
  | c :: rest =>
    if combiningClass c = 0 then composeFrom ⟨c, []⟩ rest else c :: compose rest

/-- The composed form of a text.  Below U+0300 every text is in composed form. -/
def composed (cs : List Char) : List Char :=
  if cs.all (·.toNat < 0x300) then cs else compose (decompose cs)

end TaskConsole.Text
