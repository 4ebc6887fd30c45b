import TaskConsole.Time.Timestamp
import TaskConsole.Text.Blank
import TaskConsole.Text.Numeral

/-!
# Read timestamps — wall clocks with an optional zone that is dropped

A text is trimmed, loses at most one zone designator, and the rest must be one
of three layouts, in full:

* `Y-M-DTh:m:s` with an optional fraction of the second,
* `Y-M-DTh:m`,
* `Y-M-D`, which means its midnight.

The zone is never applied: `05:00+02:00` reads as five o'clock.  Each number may
have blanks in front of it; month to second take one or two digits, the year one
to four, or a sign and any number of digits.  The second 60 is a leap second.

* `stripZone` — the text without its designator;
* `wallClock?` — the three layouts;
* `Timestamp.read?` — the whole rule. -/

namespace TaskConsole

open Text

/-! ## Zone designators -/

/-- Hours and minutes of an offset, with or without a colon between them. -/
def isOffset : List Char → Bool
  | [a, b, ':', c, d] => isDigit a && isDigit b && isDigit c && isDigit d
  | [a, b, c, d] => isDigit a && isDigit b && isDigit c && isDigit d
  | _ => false

/-- The sign of an offset. -/
def isSign (c : Char) : Bool := c == '+' || c == '-'

/-- The letter between date and time of day, in either case. -/
def isTimeMark (c : Char) : Bool := c == 'T' || c == 't'

/-- A text cut before its last sign: what stands before it, and what after it. -/
def splitAtLastSign (cs : List Char) : Option (List Char × List Char) :=
  match cs.reverse.dropWhile (fun c => !isSign c) with
  | [] => none
  | _ :: front => some (front.reverse, (cs.reverse.takeWhile fun c => !isSign c).reverse)

/-- A time of day without the offset at its end, if it has one. -/
def stripOffset (cs : List Char) : List Char :=
  match splitAtLastSign cs with
  | some (front, back) => if isOffset back then front else cs
  | none => cs

/-- A text without its zone designator: one final `Z`, else an offset that stands
after the first `T`, so that the dashes of a date are never taken for one. -/
def stripZone (cs : List Char) : List Char :=
  match cs.reverse with
  | 'Z' :: front => front.reverse
  | 'z' :: front => front.reverse
  | _ =>
    cs.takeWhile (fun c => !isTimeMark c) ++ stripOffset (cs.dropWhile fun c => !isTimeMark c)

/-! ## Fields -/

/-- The leading digits of a text, at most so many, as a number; at least one. -/
def leadingDigits? (width : Nat) (cs : List Char) : Option (Nat × List Char) :=
  let ds := (cs.take width).takeWhile isDigit
  if ds = [] then none else some (decimalValue ds, cs.drop ds.length)

/-- A field of one or two digits, after any blanks. -/
def field? (cs : List Char) : Option (Nat × List Char) := leadingDigits? 2 (trimStart cs)

/-- A year, after any blanks: one to four digits, or a sign and any number of digits. -/
def year? (cs : List Char) : Option (Int × List Char) :=
  match trimStart cs with
  | '-' :: r => (leadingDigits? r.length r).map fun (n, rest) => (-(n : Int), rest)
  | '+' :: r => (leadingDigits? r.length r).map fun (n, rest) => ((n : Int), rest)
  | r => (leadingDigits? 4 r).map fun (n, rest) => ((n : Int), rest)

/-- What follows one expected character. -/
def after? (c : Char) : List Char → Option (List Char)
  | d :: rest => if d = c then some rest else none
  | [] => none

/-- The nanoseconds of a run of fraction digits; those past the ninth are dropped. -/
def fractionNanos (ds : List Char) : Nat :=
  let kept := ds.take 9
  decimalValue kept * Nat.pow 10 (9 - kept.length)

/-- A fraction of a second that ends the text: nothing, or a point and digits. -/
def fraction? : List Char → Option Nat
  | [] => some 0
  | '.' :: ds => if ds ≠ [] ∧ ds.all isDigit then some (fractionNanos ds) else none
  | _ => none

/-! ## Layouts -/

/-- A date at the start of a text. -/
def date? (cs : List Char) : Option (Date × List Char) := do
  let (year, cs) ← year? cs
  let cs ← after? '-' cs
  let (month, cs) ← field? cs
  let cs ← after? '-' cs
  let (day, cs) ← field? cs
  let date ← Date.of? year month day
  return (date, cs)

/-- A moment on a date, where the second 60 stands for a leap second. -/
def moment? (date : Date) (hour minute second nanos : Nat) : Option Timestamp :=
  if second = 60 then Timestamp.of? date hour minute 59 (1000000000 + nanos)
  else Timestamp.of? date hour minute second nanos

/-- What may follow the minute: nothing, or seconds with an optional fraction. -/
def seconds? : List Char → Option (Nat × Nat)
  | [] => some (0, 0)
  | cs => do
    let cs ← after? ':' cs
    let (second, cs) ← field? cs
    let nanos ← fraction? cs
    return (second, nanos)

/-- A whole text in one of the three layouts. -/
def wallClock? (cs : List Char) : Option Timestamp := do
  let (date, cs) ← date? cs
  if cs = [] then return Timestamp.midnight date
  let cs ← after? 'T' cs
  let (hour, cs) ← field? cs
  let cs ← after? ':' cs
  let (minute, cs) ← field? cs
  let (second, nanos) ← seconds? cs
  moment? date hour minute second nanos

/-- A timestamp on a list of characters. -/
def readChars? (cs : List Char) : Option Timestamp := wallClock? (stripZone (trimChars cs))

/-- The moment that a text names, read as UTC whatever its zone; nothing for any
other text. -/
def Timestamp.read? (s : String) : Option Timestamp := readChars? s.toList

end TaskConsole
