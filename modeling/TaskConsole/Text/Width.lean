import TaskConsole.Text.Cluster
import TaskConsole.Text.Width.Table

/-!
# Columns of text — symbols and the columns they take on a screen

A symbol is a cluster of characters with the columns that it takes on a screen: two
for a wide character, none for what is not shown, one for most others.  A character
takes another number of columns when those after it change how it is shown: as a
picture or as text, tied to another pictograph, or below the consonant before it.

* `charColumns` — the columns of a character by itself;
* `Follower`, `columnsBefore` — what the characters after one do to it, and the columns of
  a text, read from its end;
* `symbols`, `fitting` — the symbols of a text, and those that fit in a number of columns. -/

namespace TaskConsole.Text

/-! ## Characters -/

/-- A character outside ASCII that takes no column by itself: it is not shown, or it
stands with another one.  The leading filler of Hangul is shown with the letters
after it, and the joiner of Tifinagh is seen where it joins nothing. -/
def takesNoColumn (c : Char) : Bool :=
  let n := c.toNat
  if n = 0x115F ∨ n = 0x2D7F then false
  else
    BreakClass.ofHangul? n == some .vowelLetter || BreakClass.ofHangul? n == some .trailingLetter
      || ignorableTable.contains c || attachedTable.contains c

/-- The columns that a character takes by itself; a control character takes one, as the
sign for it does. -/
def charColumns (c : Char) : Nat :=
  let n := c.toNat
  if n < 0xA1 then 1
  else if n = 0x17D8 then 3
  else if n = 0x17A4 then 2
  else if takesNoColumn c then 0
  else if wideTable.contains c then 2
  else 1

/-! ## Texts -/

/-- What the characters after one do to it. -/
inductive Follower where
  | nothing
  | lineFeed
  | picture
  | tone
  | textMark
  -- the mark of a picture; the picture is tied to another if so
  | pictureMark (tied : Bool)
  | tie
  -- a Khmer letter that may stand below a consonant, perhaps behind characters that are not
  -- shown
  | lowLetter
  deriving DecidableEq, Repr

/-- A Khmer letter that may stand below a consonant. -/
def isLowLetter (n : Nat) : Bool :=
  0x1780 ≤ n && n ≤ 0x17AF
    && !([0x1783, 0x1788, 0x178D, 0x1794, 0x1799, 0x179A, 0x179E, 0x179F, 0x17A1, 0x17A3,
      0x17A4, 0x17A5, 0x17A6, 0x17A8, 0x17A9, 0x17AA, 0x17AD, 0x17AE].contains n)

/-- What a character does to the one before it. -/
def Follower.of (c : Char) : Follower :=
  let n := c.toNat
  if n < 0xA1 then .nothing
  else if n = 0xFE0E then .textMark
  else if n = 0xFE0F then .pictureMark false
  else if 0x1F3FB ≤ n ∧ n ≤ 0x1F3FF then .tone
  else if isLowLetter n then .lowLetter
  else if pictureTable.contains c then .picture
  else .nothing

/-- The columns that a character adds before others, and what it does to the one before. -/
def columnsBefore (next : Follower) (c : Char) : Int × Follower :=
  let n := c.toNat
  let alone : Int × Follower := (charColumns c, .of c)
  if n = 0x0A then (0, .lineFeed)
  else match next with
  | .nothing => alone
  | .lineFeed => if n = 0x0D then (0, .nothing) else alone
  | .textMark => if plainPictureTable.contains c then (1, .nothing) else alone
  | .pictureMark tied =>
    if textPictureTable.contains c || pictureTable.contains c then
      (if tied then 0 else 2, .picture)
    else alone
  | .tone =>
    if n = 0x200D then (0, .tie)
    else if tintedTable.contains c then (0, .picture)
    else alone
  | .picture => if n = 0x200D then (0, .tie) else alone
  | .tie =>
    if n = 0xFE0F then (0, .pictureMark true)
    else if 0x1F3FB ≤ n ∧ n ≤ 0x1F3FF then (0, .tone)
    else if pictureTable.contains c then (0, .picture)
    else alone
  | .lowLetter =>
    if n = 0x17D2 then (-1, .nothing)
    else if n = 0x200D || transparentTable.contains c then (0, .lowLetter)
    else alone

/-- The columns of a text, and what it does to a character before it. -/
def columnsWithin : List Char → Int × Follower
  | [] => (0, .nothing)
  | c :: rest =>
    let (sum, next) := columnsWithin rest
    let (added, here) := columnsBefore next c
    (sum + added, here)

/-- The columns that a text takes. -/
def columns (cs : List Char) : Nat := (columnsWithin cs).1.toNat

/-! ## Symbols -/

/-- Something that is drawn at one place of a screen. -/
structure Symbol where
  text : String
  columns : Nat
  deriving DecidableEq

/-- The symbols of a text. -/
def symbols (cs : List Char) : List Symbol :=
  (clusters cs).map fun cluster => ⟨String.ofList cluster, columns cluster⟩

/-- The symbols that fit in so many columns; the first that does not fit ends the text. -/
def fitting : Nat → List Symbol → List Symbol
  | _, [] => []
  | room, s :: rest => if s.columns ≤ room then s :: fitting (room - s.columns) rest else []

/-- The first line of a text, which ends before a line feed or before a carriage return
and a line feed. -/
def firstLine (s : String) : String :=
  let line := s.toList.takeWhile (· != '\n')
  if line.length < s.toList.length ∧ line.getLast? = some '\r' then String.ofList line.dropLast
  else String.ofList line

end TaskConsole.Text
