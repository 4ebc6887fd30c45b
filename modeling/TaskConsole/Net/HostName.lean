import TaskConsole.Net.HostName.Table
import TaskConsole.Text.Composition
import TaskConsole.Text.Punycode

/-!
# Host names — names in any script, written in ASCII

A name in any script is brought into one form before it is looked up, as UTS 46 says:
its characters are mapped, so that case and width do not matter, and put into composed
form.  Its labels must then be such that no two names look alike by their direction
or by invisible joiners, and those outside ASCII are written in ASCII.

* `HostName.mapped?` — the characters of a name mapped, unless one is not allowed;
* `HostName.readLabel?` — a label as it is meant, also when it came in its ASCII form,
  and not too long;
* `HostName.obeysJoiners`, `HostName.obeysDirection` — where joiners may stand, and how
  directions may mix;
* `HostName.toAscii?` — the whole name in ASCII. -/

namespace TaskConsole.HostName

open Text

/-! ## Mapping -/

/-- What a character is mapped to; nothing when no name may hold it. -/
def mapChar? (c : Char) : Option (List Char) :=
  if c.toNat < 0x80 then some [c.toLower]
  else if disallowedTable.contains c then none
  else some ((mappingTable.image? c).getD [c])

/-- A name with its characters mapped, in composed form. -/
def mapped? (cs : List Char) : Option (List Char) :=
  (cs.mapM mapChar?).map fun parts => composed parts.flatten

/-- A text that mapping would not change. -/
def isMapped (cs : List Char) : Bool := mapped? cs == some cs

/-! ## Marks and joiners -/

/-- A mark without a column of its own. -/
def isNonspacingMark (c : Char) : Bool := 0x300 ≤ c.toNat && nonspacingMarkTable.contains c

/-- A mark. -/
def isMark (c : Char) : Bool :=
  isNonspacingMark c || (0x300 ≤ c.toNat && spacingMarkTable.contains c)

/-- A sign that ends a syllable without a vowel, and so asks for a joiner. -/
def isVirama (c : Char) : Bool := combiningClass c == 9

/-- A character joins what comes after it. -/
def joinsNext (c : Char) : Bool := dualJoiningTable.contains c || leftJoiningTable.contains c

/-- A character joins what comes before it. -/
def joinsPrevious (c : Char) : Bool :=
  dualJoiningTable.contains c || rightJoiningTable.contains c

/-- The first character that is no mark has a property. -/
def firstLetter (p : Char → Bool) (cs : List Char) : Bool :=
  ((cs.dropWhile isNonspacingMark).head?.map p).getD false

/-- Joiners stand where they change how the text is read: after a virama, or, for the one
that separates, between two letters that would join.  The characters before come
last first. -/
def obeysJoinersAfter (before : List Char) : List Char → Bool
  | [] => true
  | c :: rest =>
    let afterVirama := (before.head?.map isVirama).getD false
    let isInPlace :=
      if c.toNat = 0x200D then afterVirama
      else if c.toNat = 0x200C then
        afterVirama || (firstLetter joinsNext before && firstLetter joinsPrevious rest)
      else true
    isInPlace && obeysJoinersAfter (c :: before) rest

/-- The joiners of a label stand where they may. -/
def obeysJoiners (label : List Char) : Bool := obeysJoinersAfter [] label

/-! ## Direction -/

/-- In which direction a character runs. -/
inductive Direction where
  | leftToRight
  | rightToLeft
  | arabicNumber
  | europeanNumber
  | nonspacing
  | neutral
  deriving DecidableEq, Repr

/-- The direction of a character of a name. -/
def directionOf (c : Char) : Direction :=
  if c.toNat < 0x80 then
    if isDigit c then .europeanNumber else if c.isAlpha then .leftToRight else .neutral
  else if rightToLeftTable.contains c then .rightToLeft
  else if arabicNumberTable.contains c then .arabicNumber
  else if europeanNumberTable.contains c then .europeanNumber
  else if isNonspacingMark c && !steadyMarkTable.contains c then .nonspacing
  else if neutralTable.contains c then .neutral
  else .leftToRight

/-- A direction that makes all labels of a name obey the rule. -/
def Direction.isBinding : Direction → Bool
  | rightToLeft | arabicNumber => true
  | _ => false

/-- A label that runs from left to right: no character in it runs the other way, and
before its closing marks it ends with a letter or a digit. -/
def runsLeftToRight (directions : List Direction) : Bool :=
  let core := directions.reverse.dropWhile (· == .nonspacing)
  directions.all (fun d => !d.isBinding)
    && (core.head? == some .leftToRight || core.head? == some .europeanNumber)

/-- A label that runs from right to left: no letter in it runs the other way, before its
closing marks it ends with a letter or a digit, and its digits are of one kind. -/
def runsRightToLeft (directions : List Direction) : Bool :=
  let core := directions.reverse.dropWhile (· == .nonspacing)
  directions.all (· != .leftToRight)
    && (core.head? == some .rightToLeft || core.head? == some .europeanNumber
      || core.head? == some .arabicNumber)
    && !(directions.contains .europeanNumber && directions.contains .arabicNumber)

/-- The directions in a label do not mix, or the label is empty. -/
def obeysDirection (label : List Char) : Bool :=
  let directions := label.map directionOf
  match directions with
  | [] => true
  | .leftToRight :: _ => runsLeftToRight directions
  | .rightToLeft :: _ => runsRightToLeft directions
  | _ => false

/-! ## Labels -/

/-- A label may stand in a name: it begins with no mark, and its joiners stand where they
may. -/
def isValidLabel (label : List Char) : Bool :=
  !((label.head?.map isMark).getD false) && obeysJoiners label

/-- A label in ASCII. -/
def isAscii (label : List Char) : Bool := label.all (·.toNat < 0x80)

/-- The greatest number of characters of a label outside ASCII. -/
def maxLabelLength : Nat := 1000

/-- The greatest length of the ASCII form of a label, without its mark. -/
def maxAsciiLength : Nat := 2000

/-- The label that follows the mark of an ASCII form: it needs that form, and mapping
would not change it. -/
def readMarkedLabel? (cs : List Char) : Option (List Char) :=
  if maxAsciiLength < cs.length then none
  else (readPunycode? cs).filter fun label => !isAscii label && isMapped label

/-- A label as it is meant. -/
def readLabel? (cs : List Char) : Option (List Char) := do
  let label ← if asciiMark.isPrefixOf cs then
      (if isAscii cs then readMarkedLabel? (cs.drop asciiMark.length) else none)
    else some cs
  guard (isAscii label || (label.length ≤ maxLabelLength && isValidLabel label))
  return label

/-- The labels of a name as they are meant. -/
def labels? (cs : List Char) : Option (List (List Char)) := do
  let labels ← (splitOn '.' (← mapped? cs)).mapM readLabel?
  guard (isAscii labels.flatten ∨ ¬ labels.flatten.any (directionOf · |>.isBinding)
    ∨ labels.all obeysDirection)
  return labels

/-- A name in ASCII, in lower case; nothing when it is not valid. -/
def toAscii? (cs : List Char) : Option (List Char) :=
  (labels? cs).map fun labels => joinWith ['.'] (labels.map asciiLabel)

end TaskConsole.HostName
