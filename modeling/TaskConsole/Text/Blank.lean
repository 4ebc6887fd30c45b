/-!
# Blank characters — trimming and blank texts

Every text that comes from outside (settings, gossip, replies, typed fields) is
trimmed of the characters with the Unicode property `White_Space`.  The zero
width characters U+200B and U+FEFF do not have that property and are kept.

* `isBlank` — the property, as a table of ranges;
* `trim` — a text without its leading and trailing blanks;
* `isBlankText` — a text that holds blanks only. -/

namespace TaskConsole.Text

/-- The code points with the property `White_Space`, as closed ranges. -/
def blankRanges : List (Nat × Nat) :=
  [(0x09, 0x0D), (0x20, 0x20), (0x85, 0x85), (0xA0, 0xA0), (0x1680, 0x1680),
   (0x2000, 0x200A), (0x2028, 0x2029), (0x202F, 0x202F), (0x205F, 0x205F),
   (0x3000, 0x3000)]

/-- A character is blank when its code point lies in one of the ranges. -/
def isBlank (c : Char) : Bool :=
  blankRanges.any fun r => r.1 ≤ c.toNat && c.toNat ≤ r.2

/-- Leading blanks removed. -/
def trimStart (cs : List Char) : List Char := cs.dropWhile isBlank

/-- Trailing blanks removed. -/
def trimEnd (cs : List Char) : List Char := (cs.reverse.dropWhile isBlank).reverse

/-- Blanks removed at both ends, on a list of characters. -/
def trimChars (cs : List Char) : List Char := trimEnd (trimStart cs)

/-- Blanks removed at both ends. -/
def trim (s : String) : String := String.ofList (trimChars s.toList)

/-- A text of blanks only; the empty text is one. -/
def isBlankText (s : String) : Bool := s.toList.all isBlank

/-- A text trimmed, or nothing when it is blank. -/
def trimmed? (s : String) : Option String :=
  if isBlankText s then none else some (trim s)

@[simp] theorem toList_trim (s : String) : (trim s).toList = trimChars s.toList :=
  String.toList_ofList

end TaskConsole.Text
