import TaskConsole.Binary64
import TaskConsole.Text.Numeral

/-!
# JSON numbers — integers kept exactly, all else rounded to binary

A numeral without fraction and exponent that fits 64 bits, signed or unsigned, is
an integer; every other one, and `-0`, is a binary number.  A binary number is
found in steps that are each rounded: the significand (as many digits as fit 64
bits), then its product with, or quotient by, a power of ten.

* `Number` — an integer or a binary number, with `Number.truncate`;
* `Number.int64?`, `Number.port?` — a number as the integer that a record needs, read in
  steps: as it is where it is one, or else of the nearest binary number;
* `Numeral` — a sign, digits before and after the point, an exponent;
* `Numeral.read?`, `Numeral.number?` — the text of a number, and what it denotes. -/

namespace TaskConsole

/-- The least integer of 64 bits. -/
def leastInt64 : Int := -9223372036854775808

/-- The greatest integer of 64 bits. -/
def greatestInt64 : Int := 9223372036854775807

/-- An integer cut to the range of 64 bits. -/
def clampInt64 (n : Int) : Int64 := Int64.ofInt (max leastInt64 (min n greatestInt64))

namespace Json

open Text

/-- A number of a document. -/
inductive Number where
  -- an integer of 64 bits, with a sign or without
  | integer (value : Int)
      (fits : -9223372036854775808 ≤ value ∧ value ≤ 18446744073709551615)
  | binary (value : Binary64)
  deriving DecidableEq

namespace Number

/-- An integer as a number, if it fits 64 bits. -/
def ofInt? (n : Int) : Option Number :=
  if fits : -9223372036854775808 ≤ n ∧ n ≤ 18446744073709551615 then some (integer n fits)
  else none

/-- The number rounded toward zero. -/
def truncate : Number → Int
  | integer n _ => n
  | binary x => x.truncate

/-- An integer that has 64 bits, one of them for its sign. -/
def signed? : Number → Option Int64
  | integer n _ => if leastInt64 ≤ n ∧ n ≤ greatestInt64 then some (Int64.ofInt n) else none
  | binary _ => none

/-- An integer that has no sign. -/
def unsigned? : Number → Option Nat
  | integer n _ => if 0 ≤ n then some n.toNat else none
  | binary _ => none

/-- The binary number that is nearest. -/
def nearest? : Number → Option Binary64
  | integer n _ => Binary64.ofRatio? (n < 0) n.natAbs 1
  | binary x => some x

/-- An integer of 64 bits: as it is, or else of the nearest binary number, cut toward zero and
to the range. -/
def int64? (n : Number) : Option Int64 :=
  match n.signed? with
  | some k => some k
  | none => n.nearest?.map fun x => clampInt64 x.truncate

/-- A natural number of 64 bits: as it is, or else of the nearest binary number, which must
not be below zero, cut to the range. -/
def natural? (n : Number) : Option Nat :=
  match n.unsigned? with
  | some k => some k
  | none =>
    (n.nearest?.filter (·.isNonnegative)).map fun x => min 18446744073709551615 x.floorMagnitude

/-- A port; what is out of the range is none. -/
def port? (n : Number) : Option UInt16 := (n.natural?.filter (· < 65536)).map UInt16.ofNat

end Number

/-- The parts of a numeral, as they are written. -/
structure Numeral where
  negative : Bool
  whole : List Char
  fraction : Option (List Char)
  exponent : Option Int

namespace Numeral

/-- The largest significand, that of 64 bits. -/
def maxSignificand : Nat := 18446744073709551615

/-- Digits taken into a significand while it fits, and the digits left over. -/
def accumulate (significand : Nat) : List Char → Nat × List Char
  | [] => (significand, [])
  | c :: cs =>
    let next := significand * 10 + digitValue c
    if next ≤ maxSignificand then accumulate next cs else (significand, c :: cs)

/-- The significand and the exponent of ten by which it counts: digits before the
point that do not fit only raise the exponent, those after it are dropped. -/
def significand (n : Numeral) : Nat × Int :=
  let (high, excess) := accumulate 0 n.whole
  let digits := n.fraction.getD []
  let (all, dropped) := accumulate high digits
  (all, (excess.length : Int) - (digits.length - dropped.length) + n.exponent.getD 0)

/-- A power of ten, rounded; only those up to 10³⁰⁸ are asked for. -/
def powerOfTen? (n : Nat) : Option Binary64 := Binary64.ofRatio? false (Nat.pow 10 n) 1

/-- A binary number times a power of ten. Below 10⁻³⁰⁸ the quotient is taken in two
steps; what is smaller still is zero, and what is too large is refused. -/
def scale? (x : Binary64) (exponent : Int) : Option Binary64 :=
  if x.significand = 0 then some x
  else if exponent > 308 then none
  else if 0 ≤ exponent then do x.times? (← powerOfTen? exponent.toNat)
  else if -308 ≤ exponent then do x.over? (← powerOfTen? (-exponent).toNat)
  else if -616 ≤ exponent then do
    let y ← x.over? (← powerOfTen? 308)
    y.over? (← powerOfTen? (-exponent - 308).toNat)
  else some (.zero x.negative)

/-- The binary number that a numeral denotes; nothing when it is too large. -/
def binary? (n : Numeral) : Option Binary64 := do
  let (digits, exponent) := n.significand
  let x ← Binary64.ofRatio? n.negative digits 1
  scale? x exponent

/-- The integer that a numeral denotes, when it has neither fraction nor exponent,
fits 64 bits and is no negative zero. -/
def integer? (n : Numeral) : Option Number :=
  let value := decimalValue n.whole
  if n.fraction.isSome || n.exponent.isSome then none
  else if n.negative then if value = 0 then none else Number.ofInt? (-(value : Int))
  else Number.ofInt? value

/-- What a numeral denotes; nothing when it is too large. -/
def number? (n : Numeral) : Option Number :=
  match n.integer? with
  | some value => some value
  | none => n.binary?.map .binary

/-- The digits before the point: a zero alone, or digits that begin with no zero. -/
def isWhole : List Char → Bool
  | [] => false
  | ['0'] => true
  | '0' :: _ => false
  | _ => true

/-- The mark of an exponent, in either case. -/
def isExponentMark (c : Char) : Bool := c == 'e' || c == 'E'

/-- The exponent at the end of a numeral: nothing, or a mark, a sign and digits. -/
def readExponent? : List Char → Option (Option Int)
  | [] => some none
  | c :: cs => if isExponentMark c then (Text.integer? cs).map some else none

/-- A numeral in full: `-`, digits, a point with digits, an exponent. -/
def read? (cs : List Char) : Option Numeral := do
  let (negative, cs) := match cs with
    | '-' :: rest => (true, rest)
    | rest => (false, rest)
  let whole := cs.takeWhile isDigit
  guard (isWhole whole)
  match cs.dropWhile isDigit with
  | '.' :: rest =>
    let fraction := rest.takeWhile isDigit
    guard (fraction ≠ [])
    let exponent ← readExponent? (rest.dropWhile isDigit)
    return { negative, whole, fraction := some fraction, exponent }
  | rest =>
    let exponent ← readExponent? rest
    return { negative, whole, fraction := none, exponent }

end Numeral

end Json

end TaskConsole
