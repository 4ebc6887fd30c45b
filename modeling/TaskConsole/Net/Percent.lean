import TaskConsole.Text.Numeral
import TaskConsole.Text.Utf8

/-!
# Percent signs — bytes that an address cannot hold as they are

A byte is written as a percent sign and two hexadecimal digits.  Which ASCII characters
need it depends on the part of the address; controls and all that lies outside ASCII
always do.

* `fragmentSet`, `querySet`, `pathSet`, `credentialSet` — the ASCII characters besides;
* `encode`, `decode` — a text with its bytes encoded, and the bytes put back. -/

namespace TaskConsole.Percent

open Text

/-- A byte as a percent sign and two hexadecimal digits. -/
def byteText (b : UInt8) : List Char :=
  ['%', (Nat.digitChar (b.toNat / 16)).toUpper, (Nat.digitChar (b.toNat % 16)).toUpper]

/-- A text with controls, characters outside ASCII and those of a set encoded. -/
def encode (set : List Char) (cs : List Char) : List Char :=
  cs.flatMap fun c =>
    if c.toNat < 0x20 || 0x7F ≤ c.toNat || set.contains c then
      (Utf8.encode (String.singleton c)).flatMap byteText
    else [c]

/-- The bytes of a text, with encoded ones put back. -/
def decode : List Char → List UInt8
  | '%' :: a :: b :: rest =>
    match hexNumber? [a, b] with
    | some n => UInt8.ofNat n :: decode rest
    | none => Utf8.encode "%" ++ decode (a :: b :: rest)
  | c :: rest => Utf8.encode (String.singleton c) ++ decode rest
  | [] => []

/-- The characters encoded in a fragment. -/
def fragmentSet : List Char := [' ', '"', '<', '>', Char.ofNat 0x60]

/-- The characters encoded in a query. -/
def querySet : List Char := [' ', '"', '#', '<', '>']

/-- The characters encoded in a path. -/
def pathSet : List Char := fragmentSet ++ ['#', '?', '\x7b', '\x7d']

/-- The characters encoded in credentials. -/
def credentialSet : List Char := pathSet ++ ['/', ':', ';', '=', '@', '[', '\\', ']', '^', '|']

end TaskConsole.Percent
