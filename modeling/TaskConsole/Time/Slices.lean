import TaskConsole.Text.Slice
import TaskConsole.Time.Reader

/-!
# Timestamps read by slices — the zone designator cut off at byte offsets

The zone designator of a text is found by the offsets of a time mark and of a sign,
and what stands before it is taken as a slice.  Any host may send a text with
characters of several bytes in it, and an offset that is wrong for such a text would
be a fault.

* `cutZone` — a text without its zone designator, by slices;
* `Timestamp.readBySlices` — the moment that a text names, read in this way. -/

namespace TaskConsole

open Text

/-- The letter of universal time, in either case. -/
def isZulu (c : Char) : Bool := c == 'Z' || c == 'z'

/-- The byte of an ASCII digit. -/
def isDigitByte (b : UInt8) : Bool := '0'.toNat ≤ b.toNat && b.toNat ≤ '9'.toNat

/-- The bytes of the hours and minutes of an offset from universal time, with or
without a colon between them. -/
def isOffsetBytes : List UInt8 → Bool
  | [a, b, mark, c, d] =>
    mark.toNat == ':'.toNat && [a, b, c, d].all isDigitByte
  | [a, b, c, d] => [a, b, c, d].all isDigitByte
  | _ => false

/-- A text without the offset from universal time at its end, if it has one behind
the time mark that begins here. -/
def cutOffset (s : String) (start : Nat) : Except SliceFault String := do
  let time ← slice s start s.utf8ByteSize
  match lastOffset? isSign time with
  | none => return s
  | some sign =>
    let digits ← slice s (start + sign + 1) s.utf8ByteSize
    if isOffsetBytes (Utf8.encode digits) then slice s 0 (start + sign) else return s

/-- A text without its zone designator: one final letter, else an offset behind the
first time mark. -/
def cutZone (s : String) : Except SliceFault String :=
  if s.toList.getLast?.any isZulu then slice s 0 (s.utf8ByteSize - 1)
  else
    match firstOffset? isTimeMark s with
    | none => .ok s
    | some start => cutOffset s start

/-- The moment that a text names, its zone designator cut off by slices. -/
def Timestamp.readBySlices (s : String) : Except SliceFault (Option Timestamp) :=
  let text := trim s
  if text.isEmpty then .ok none
  else do
    let clock ← cutZone text
    return wallClock? clock.toList

end TaskConsole
