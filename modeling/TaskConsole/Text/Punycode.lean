import TaskConsole.Text.Numeral

/-!
# Punycode — host names outside ASCII written in ASCII

A label keeps its ASCII characters, in order, and says where the others belong: for
each of them, the smallest first, the number of places skipped since the last one,
as a numeral whose digits grow with an adaptive bias.

* `adapt` — the bias after a number of skipped places;
* `variableDigits` — a number in digits of growing weight;
* `punycode` — a label without its mark, `asciiLabel` — with it where it is needed;
* `readPunycode?` — the label that such a text writes. -/

namespace TaskConsole.Text

/-- The number of digits: the letters, then the ASCII digits. -/
def punycodeBase : Nat := 36

/-- The character of a digit. -/
def punycodeDigit (n : Nat) : Char :=
  if n < 26 then Char.ofNat ('a'.toNat + n) else Char.ofNat ('0'.toNat + (n - 26))

/-- A number scaled down until it is small, with the number of scalings by 36. -/
def scaleDown (delta k : Nat) : Nat × Nat :=
  if 455 < delta then scaleDown (delta / 35) (k + punycodeBase) else (delta, k)
termination_by delta
decreasing_by exact Nat.div_lt_self (by omega) (by omega)

/-- The bias for the next number, from the last one and the characters placed so far. -/
def adapt (delta placed : Nat) (isFirst : Bool) : Nat :=
  let halved := if isFirst then delta / 700 else delta / 2
  let (rest, k) := scaleDown (halved + halved / placed) 0
  k + punycodeBase * rest / (rest + 38)

/-- The least value of a digit that is not the last, between 1 and 26. -/
def threshold (k bias : Nat) : Nat := max 1 (min 26 (k - bias))

theorem one_le_threshold (k bias : Nat) : 1 ≤ threshold k bias := Nat.le_max_left _ _

/-- The digits of a number from a position on. -/
def variableDigits (q k bias : Nat) : List Char :=
  if q < threshold k bias then [punycodeDigit q]
  else
    let rest := q - threshold k bias
    let room := punycodeBase - threshold k bias
    punycodeDigit (threshold k bias + rest % room)
      :: variableDigits (rest / room) (k + punycodeBase) bias
termination_by q
decreasing_by
  have positive := one_le_threshold k bias
  have := Nat.div_le_self (q - threshold k bias) (punycodeBase - threshold k bias)
  omega

/-- Where the placing of characters stands. -/
structure Placing where
  -- the places skipped since the last character
  delta : Nat
  bias : Nat
  placed : Nat
  digits : List Char

/-- One character of the label, while those with a code point are placed. -/
def Placing.visit (code basic : Nat) (p : Placing) (c : Char) : Placing :=
  if c.toNat < code then { p with delta := p.delta + 1 }
  else if c.toNat = code then
    { delta := 0
      bias := adapt p.delta (p.placed + 1) (p.placed == basic)
      placed := p.placed + 1
      digits := p.digits ++ variableDigits p.delta punycodeBase p.bias }
  else p

/-- The characters with a code point are placed, after those up to the last one. -/
def Placing.place (label : List Char) (basic : Nat) (p : Placing) (last code : Nat) : Placing :=
  let entered := { p with delta := p.delta + (code - last) * (p.placed + 1) }
  let visited := label.foldl (Placing.visit code basic) entered
  { visited with delta := visited.delta + 1 }

/-- Code points placed one after the other. -/
def Placing.placeAll (label : List Char) (basic : Nat) : Placing → Nat → List Nat → Placing
  | p, _, [] => p
  | p, last, code :: rest =>
    Placing.placeAll label basic (p.place label basic last code) (code + 1) rest

/-- The ASCII form of a label, without the mark that it is one. -/
def punycode (label : List Char) : List Char :=
  let basic := label.filter (·.toNat < 128)
  let codes := ((label.filter fun c => 128 ≤ c.toNat).map (·.toNat)).mergeSort.eraseDups
  let start : Placing := ⟨0, 72, basic.length, []⟩
  let front := if basic = [] then [] else basic ++ ['-']
  front ++ (Placing.placeAll label basic.length start 128 codes).digits

/-- The mark of a label that is written in ASCII. -/
def asciiMark : List Char := "xn--".toList

/-- A label in ASCII: itself, or its ASCII form behind a mark. -/
def asciiLabel (label : List Char) : List Char :=
  if label.all (·.toNat < 128) then label else asciiMark ++ punycode label

/-! ## Reading -/

/-- The number that a digit denotes; letters are lower case. -/
def punycodeValue? (c : Char) : Option Nat :=
  if 'a' ≤ c ∧ c ≤ 'z' then some (c.toNat - 'a'.toNat)
  else if isDigit c then some (digitValue c + 26)
  else none

/-- Where the reading of the placed characters stands. -/
structure Unplacing where
  label : List Char
  code : Nat
  place : Nat
  bias : Nat
  delta : Nat
  weight : Nat
  -- the position of the next digit, as the threshold counts it
  position : Nat

/-- A number is complete: the character that it places. -/
def Unplacing.placeNext? (p : Unplacing) (delta : Nat) : Option Unplacing :=
  let size := p.label.length + 1
  let reached := p.place + delta
  let code := p.code + reached / size
  let place := reached % size
  if code < 0xD800 ∨ 0xDFFF < code ∧ code ≤ 0x10FFFF then
    some { label := p.label.take place ++ Char.ofNat code :: p.label.drop place
           code
           place := place + 1
           bias := adapt delta size (p.place == 0)
           delta := 0
           weight := 1
           position := punycodeBase }
  else none

/-- One more digit. -/
def Unplacing.digit? (p : Unplacing) (c : Char) : Option Unplacing := do
  let d ← punycodeValue? c
  let delta := p.delta + d * p.weight
  let t := threshold p.position p.bias
  if d < t then p.placeNext? delta
  else some { p with delta, weight := p.weight * (punycodeBase - t)
                     position := p.position + punycodeBase }

/-- The ASCII characters of a text in ASCII form, and the digits after them. -/
def splitBasic (cs : List Char) : List Char × List Char :=
  let digits := (cs.reverse.takeWhile (· != '-')).reverse
  let basic := cs.take (cs.length - digits.length - 1)
  if basic = [] then ([], cs) else (basic, digits)

/-- The label of an ASCII form without its mark; nothing when no label has that form. -/
def readPunycode? (cs : List Char) : Option (List Char) := do
  let (basic, digits) := splitBasic cs
  let start : Unplacing := ⟨basic, 128, 0, 72, 0, 1, punycodeBase⟩
  let p ← digits.foldlM Unplacing.digit? start
  if p.position = punycodeBase then some p.label else none

end TaskConsole.Text
