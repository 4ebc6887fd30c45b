import TaskConsole.Text.Numeral
import TaskConsole.Text.Parts

/-!
# Internet addresses — versions 4 and 6, read and written

* `Address` — four bytes, or eight groups of 16 bits;
* `Address.read?` — the usual text forms: decimal bytes without leading zeros, and
  hexadecimal groups with at most one `::` and perhaps a final dotted quad;
* `Address.text` — the canonical form: lower case, the first longest run of two or
  more zero groups as `::`, an embedded version 4 address dotted. -/

namespace TaskConsole

open Text

/-- An address of a host. -/
inductive Address where
  | v4 (a b c d : UInt8)
  | v6 (groups : Vector UInt16 8)
  deriving DecidableEq

namespace Address

/-- The host itself, by version 4. -/
def loopback : Address := .v4 127 0 0 1

/-! ## Reading -/

/-- A byte in decimal: up to three digits, no zero in front of others. -/
def readByte? (cs : List Char) : Option UInt8 :=
  if cs.length ≤ 3 ∧ (cs.head? ≠ some '0' ∨ cs.length = 1) then
    ((digits? cs).filter (· < 256)).map UInt8.ofNat
  else none

/-- Four bytes in decimal, with points between them. -/
def readQuad? (cs : List Char) : Option (UInt8 × UInt8 × UInt8 × UInt8) :=
  match (splitOn '.' cs).mapM readByte? with
  | some [a, b, c, d] => some (a, b, c, d)
  | _ => none

/-- A group of one to four hexadecimal digits. -/
def readGroup? (cs : List Char) : Option UInt16 :=
  if 1 ≤ cs.length ∧ cs.length ≤ 4 then
    (hexNumber? cs).map UInt16.ofNat
  else none

/-- Two bytes as one group. -/
def pairBytes (a b : UInt8) : UInt16 := UInt16.ofNat (a.toNat * 256 + b.toNat)

/-- Groups with colons between them; where a dotted quad is allowed, the last part
may be one, and counts for two groups. -/
def readGroups? (quad : Bool) (cs : List Char) : Option (List UInt16) :=
  if cs = [] then some []
  else
    let parts := splitOn ':' cs
    let front := parts.dropLast.mapM readGroup?
    let last := parts.getLast?.getD []
    match front, readGroup? last, (if quad then readQuad? last else none) with
    | some gs, some g, _ => some (gs ++ [g])
    | some gs, none, some (a, b, c, d) => some (gs ++ [pairBytes a b, pairBytes c d])
    | _, _, _ => none

/-- A text cut at the first `::`. -/
def splitDoubleColon : List Char → Option (List Char × List Char)
  | [] => none
  | ':' :: ':' :: rest => some ([], rest)
  | c :: rest => (splitDoubleColon rest).map fun (front, back) => (c :: front, back)

/-- Eight groups from a list of that length. -/
def ofGroups? (gs : List UInt16) : Option Address :=
  if h : gs.toArray.size = 8 then some (.v6 ⟨gs.toArray, h⟩) else none

/-- An address of version 6; `::` stands for the groups that are missing, at least one. -/
def readV6? (cs : List Char) : Option Address :=
  match splitDoubleColon cs with
  | none => (readGroups? true cs).bind ofGroups?
  | some (front, back) => do
    let high ← readGroups? false front
    let low ← readGroups? true back
    if high.length + low.length ≤ 7 then
      ofGroups? (high ++ List.replicate (8 - high.length - low.length) 0 ++ low)
    else none

/-- The address that a text names. -/
def read? (s : String) : Option Address :=
  match readQuad? s.toList with
  | some (a, b, c, d) => some (.v4 a b c d)
  | none => readV6? s.toList

/-! ## Writing -/

/-- Four bytes in decimal. -/
def quadText (a b c d : UInt8) : List Char :=
  decimal a.toNat ++ '.' :: decimal b.toNat ++ '.' :: decimal c.toNat ++ '.' :: decimal d.toNat

/-- The hexadecimal digits of a number, lower case, without leading zeros. -/
def hexText (n : Nat) : List Char := Nat.toDigits 16 n

/-- Groups with colons between them. -/
def groupsText (gs : List UInt16) : List Char := joinWith [':'] (gs.map fun g => hexText g.toNat)

/-- The start and length of the first longest run of zeros. -/
def longestZeros (gs : List UInt16) : Nat × Nat :=
  let runs := (List.range gs.length).map fun i => (i, ((gs.drop i).takeWhile (· == 0)).length)
  runs.foldl (fun best run => if run.2 > best.2 then run else best) (0, 0)

/-- Groups with the first longest run of two or more zeros written as `::`. -/
def compressedText (gs : List UInt16) : List Char :=
  let (start, length) := longestZeros gs
  if 2 ≤ length then
    groupsText (gs.take start) ++ ':' :: ':' :: groupsText (gs.drop (start + length))
  else groupsText gs

/-- Eight groups in the canonical form. -/
def v6Text (gs : List UInt16) : List Char :=
  match gs with
  | [0, 0, 0, 0, 0, 0xFFFF, high, low] =>
    "::ffff:".toList ++ quadText (high >>> 8).toUInt8 high.toUInt8 (low >>> 8).toUInt8 low.toUInt8
  | _ => compressedText gs

/-- The canonical text of an address. -/
def text : Address → String
  | .v4 a b c d => String.ofList (quadText a b c d)
  | .v6 gs => String.ofList (v6Text gs.toList)

end Address

end TaskConsole
