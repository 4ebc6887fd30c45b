import TaskConsole.Json.Basic
import TaskConsole.Text.Numeral
import TaskConsole.Time.Reader

/-!
# JSON fields — values read as what a record needs

Numbers are taken as they come, whole or not: what matters is the number that they
denote, cut toward zero.  A value of the wrong kind is no value.

* `Json.int64?` — an integer of 64 bits, from a number or a text;
* `Json.port?` — a port, from a number;
* `Json.timestamp?` — a moment, from a text. -/

namespace TaskConsole

/-- The integer of a text that is a signed numeral, blanks around it aside. -/
def int64OfText? (s : String) : Option Int64 :=
  ((Text.integer? (Text.trimChars s.toList)).filter
    fun n => leastInt64 ≤ n ∧ n ≤ greatestInt64).map Int64.ofInt

namespace Json

/-- A value as a 64 bit integer: a number is cut toward zero and to the range, a
text must be a numeral within it. -/
def int64? : Json → Option Int64
  | number n => n.int64?
  | string s => int64OfText? s
  | _ => none

/-- A value as a port: a number that lies in the range, without its fraction. -/
def port? : Json → Option UInt16
  | number n => n.port?
  | _ => none

/-- A value as a timestamp: a text that names one. -/
def timestamp? (v : Json) : Option Timestamp := v.text?.bind Timestamp.read?

end Json

end TaskConsole
