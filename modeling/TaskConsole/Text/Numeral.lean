/-!
# Numerals — decimal digits read and written

Numbers in settings, task fields and timestamps are runs of the ASCII digits
`0` to `9`; no other digit of Unicode counts.

* `isDigit`, `decimalValue` — the class, and the number that a run of digits denotes;
* `natural?`, `integer?` — a whole text as an unsigned or a signed numeral;
* `decimal`, `padded` — the digits of a number, plain or filled up with zeros. -/

namespace TaskConsole.Text

/-- An ASCII digit. -/
def isDigit (c : Char) : Bool := '0'.toNat ≤ c.toNat && c.toNat ≤ '9'.toNat

/-- The number that an ASCII digit denotes; meaningless for other characters. -/
def digitValue (c : Char) : Nat := c.toNat - '0'.toNat

/-- The number that a hexadecimal digit denotes, in either case. -/
def hexValue? (c : Char) : Option Nat :=
  if isDigit c then some (digitValue c)
  else if 'a' ≤ c ∧ c ≤ 'f' then some (c.toNat - 'a'.toNat + 10)
  else if 'A' ≤ c ∧ c ≤ 'F' then some (c.toNat - 'A'.toNat + 10)
  else none

/-- The number denoted by a run of hexadecimal digits, the most significant first. -/
def hexNumber? (cs : List Char) : Option Nat :=
  (cs.mapM hexValue?).map fun ds => ds.foldl (fun n d => n * 16 + d) 0

/-- The number denoted by a run of digits, the most significant first. -/
def decimalValue (cs : List Char) : Nat := cs.foldl (fun n c => 10 * n + digitValue c) 0

/-- The number denoted by a text that consists of one or more digits. -/
def digits? (cs : List Char) : Option Nat :=
  if cs ≠ [] ∧ cs.all isDigit then some (decimalValue cs) else none

/-- An unsigned numeral: an optional `+`, then digits. -/
def natural? : List Char → Option Nat
  | '+' :: cs => digits? cs
  | cs => digits? cs

/-- A signed numeral: an optional `+` or `-`, then digits. -/
def integer? : List Char → Option Int
  | '-' :: cs => (digits? cs).map fun n => -(n : Int)
  | cs => (natural? cs).map fun n => (n : Int)

/-- An unsigned numeral below a bound. -/
def naturalBelow? (bound : Nat) (cs : List Char) : Option Nat :=
  (natural? cs).filter (· < bound)

/-- The decimal digits of a number, without leading zeros. -/
def decimal (n : Nat) : List Char :=
  if n < 10 then [n.digitChar] else decimal (n / 10) ++ [(n % 10).digitChar]
termination_by n

/-- The decimal digits of a number, with zeros in front up to a width. -/
def padded (width n : Nat) : List Char :=
  let ds := decimal n
  List.replicate (width - ds.length) '0' ++ ds

/-- A number as a text. -/
def showNat (n : Nat) : String := String.ofList (decimal n)

/-- An integer as a text: a `-` in front of the digits of a negative one. -/
def showInt : Int → String
  | .ofNat n => showNat n
  | .negSucc n => String.ofList ('-' :: decimal (n + 1))

end TaskConsole.Text
