import TaskConsole.Time.Timestamp
import TaskConsole.Text.Numeral

/-!
# Written timestamps — the wire form and the form on screen

* `Timestamp.wire` — `2024-05-01T02:00:00.250Z`, with whole milliseconds;
* `Timestamp.display` — `2024-05-01 02:00:00`, for people;
* `displayTime` — the same for a moment that may be absent. -/

namespace TaskConsole

open Text

/-- A year has four digits; one outside 0 to 9999 has a sign and at least four. -/
def yearText : Int → List Char
  | .ofNat y => if y ≤ 9999 then padded 4 y else '+' :: padded 4 y
  | .negSucc y => '-' :: padded 4 (y + 1)

/-- A date as year, month and day, joined by dashes. -/
def Date.text (d : Date) : List Char :=
  yearText d.year ++ '-' :: padded 2 d.month ++ '-' :: padded 2 d.day

namespace Timestamp

/-- Hour, minute and second, joined by colons; a leap second shows as 60. -/
def clockText (t : Timestamp) : List Char :=
  padded 2 t.hour ++ ':' :: padded 2 t.minute ++ ':' :: padded 2 t.shownSecond

/-- The characters of the wire form: the fraction is cut to milliseconds. -/
def wireText (t : Timestamp) : List Char :=
  t.date.text ++ 'T' :: t.clockText ++ '.' :: padded 3 (t.subsecond / 1000000) ++ ['Z']

/-- The form in which the scheduler is sent a timestamp. -/
def wire (t : Timestamp) : String := String.ofList t.wireText

/-- The form in which a timestamp is shown, without its fraction. -/
def display (t : Timestamp) : String := String.ofList (t.date.text ++ ' ' :: t.clockText)

end Timestamp

/-- A moment as it is shown in tables; an absent one is a dash. -/
def displayTime : Option Timestamp → String
  | none => "-"
  | some t => t.display

end TaskConsole
