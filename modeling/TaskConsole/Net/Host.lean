import TaskConsole.Net.Address
import TaskConsole.Net.HostName
import TaskConsole.Net.Percent

/-!
# Hosts — names and addresses in an address of the web

A host is brought into ASCII, and one whose last label is a number must be an address
of version 4.  Outside the web a host is kept as it stands.

* `Host` — a name or an address, and its text;
* `Host.read?` — a host of the web;
* `Host.readOpaque?` — any other host. -/

namespace TaskConsole

open Text

/-- The host of a target. -/
inductive Host where
  | name (text : String)
  | address (a : Address)
  deriving DecidableEq

namespace Host

/-- No host at all, where an address may go without one. -/
def nowhere : Host := .name ""

/-- The text of a host; an address of version 6 stands in brackets. -/
def text : Host → String
  | name s => s
  | address (.v4 a b c d) => (Address.v4 a b c d).text
  | address (.v6 gs) => String.ofList ('[' :: Address.compressedText gs.toList ++ [']'])

/-- A character that no host name may hold. -/
def isForbidden (c : Char) : Bool :=
  c.toNat ≤ 0x20 || 0x7F ≤ c.toNat || "#/:<>?@[\\]^|%".toList.contains c

/-! ## Addresses of version 4 -/

/-- A number as addresses may write it: decimal, octal after `0`, hexadecimal after `0x`. -/
def readNumber? : List Char → Option Nat
  | [] => none
  | '0' :: 'x' :: ds => if ds = [] then some 0 else hexNumber? ds
  | '0' :: 'X' :: ds => if ds = [] then some 0 else hexNumber? ds
  | '0' :: d :: ds =>
    if (d :: ds).all fun c => '0' ≤ c && c ≤ '7' then
      some ((d :: ds).foldl (fun n c => n * 8 + digitValue c) 0)
    else none
  | ds => digits? ds

/-- The labels of a host name; a point at its end adds none. -/
def labels (cs : List Char) : List (List Char) :=
  let parts := splitOn '.' cs
  if 1 < parts.length ∧ parts.getLast? = some [] then parts.dropLast else parts

/-- A host name whose last label is a number. -/
def endsInNumber (cs : List Char) : Bool :=
  match (labels cs).getLast? with
  | none => false
  | some label => (label ≠ [] && label.all isDigit) || (readNumber? label).isSome

/-- The address of numbers, of which the last fills all bytes that are left. -/
def readShortQuad? (cs : List Char) : Option Address := do
  let parts ← (labels cs).mapM readNumber?
  let last ← parts.getLast?
  let front := parts.dropLast
  guard (parts.length ≤ 4 ∧ front.all (· < 256) ∧ last < 1 <<< (8 * (5 - parts.length)))
  let high := (List.range front.length).foldl
    (fun n i => n + front.getD i 0 <<< (8 * (3 - i))) 0
  let n := high + last
  return .v4 (UInt8.ofNat (n >>> 24)) (UInt8.ofNat (n >>> 16)) (UInt8.ofNat (n >>> 8))
    (UInt8.ofNat n)

/-! ## Reading -/

/-- An address of version 6 between its brackets, of which the first was read. -/
def readBracketed? (rest : List Char) : Option Host :=
  if rest.getLast? = some ']' then (Address.readV6? rest.dropLast).map .address else none

/-- A host of the web: an address in brackets, or a name that may turn out to be an
address. -/
def read? (cs : List Char) : Option Host :=
  match cs with
  | [] => none
  | '[' :: rest => readBracketed? rest
  | _ => do
    let name ← HostName.toAscii? (Utf8.decodeLossy (Percent.decode cs))
    guard (name ≠ [] ∧ ¬ name.any isForbidden)
    if endsInNumber name then (readShortQuad? name).map .address
    else some (.name (String.ofList name))

/-- A character that no other host may hold. -/
def isForbiddenOpaque (c : Char) : Bool :=
  c.toNat = 0 || " \t\n\r#/:<>?@[\\]^|".toList.contains c

/-- A host outside the web: an address in brackets, or a text kept as it stands. -/
def readOpaque? (cs : List Char) : Option Host :=
  match cs with
  | '[' :: rest => readBracketed? rest
  | _ =>
    if cs.any isForbiddenOpaque then none
    else some (.name (String.ofList (Percent.encode [] cs)))

end Host

end TaskConsole
