import TaskConsole.Text.Numeral
import TaskConsole.Text.Parts

/-!
# Tables of code points — properties of characters, written as text

The classes and mappings of Unicode are kept as texts that can be read beside the
standard.  A table is a text of entries between blanks.  An entry is a code point, a
run `first-last`, or every second code point of a run, `first/last`, in hexadecimal
digits; after a `=` stand values, between commas.

* `Run` — an entry, with the code points that it covers;
* `Table.ofText` — the table that a text writes;
* `Table.contains`, `Table.value?`, `Table.image?` — what a table says of a character. -/

namespace TaskConsole.Text

/-- An entry of a table. -/
structure Run where
  first : Nat
  last : Nat
  -- the distance of the code points covered
  stride : Nat
  -- the values of the first code point
  values : List Nat
  deriving DecidableEq, Repr

/-- A code point of the run. -/
def Run.covers (r : Run) (code : Nat) : Bool :=
  r.first ≤ code && code ≤ r.last && (code - r.first) % r.stride == 0

/-- What a code point of the run is mapped to: a single value moves along the run. -/
def Run.image (r : Run) (code : Nat) : List Nat :=
  match r.values with
  | [v] => [v + (code - r.first)]
  | vs => vs

/-- The words of a text, between blanks and line breaks. -/
def words (cs : List Char) : List (List Char) :=
  let step (state : List Char × List (List Char)) (c : Char) :=
    if c = ' ' ∨ c = '\n' then
      (if state.1 = [] then state else ([], state.1.reverse :: state.2))
    else (c :: state.1, state.2)
  let (word, done) := cs.foldl step ([], [])
  (if word = [] then done else word.reverse :: done).reverse

/-- The code points that an entry names: the first, the last, and their distance. -/
def readSpan? (cs : List Char) : Option (Nat × Nat × Nat) :=
  let isBar (c : Char) := c = '-' ∨ c = '/'
  match cs.takeWhile fun c => ¬ isBar c, cs.dropWhile fun c => ¬ isBar c with
  | first, [] => (hexNumber? first).map fun n => (n, n, 1)
  | first, bar :: last => do
    return (← hexNumber? first, ← hexNumber? last, if bar = '/' then 2 else 1)

/-- The entry that a word writes. -/
def Run.read? (cs : List Char) : Option Run := do
  let (first, last, stride) ← readSpan? (cs.takeWhile (· != '='))
  let values ← match (cs.dropWhile (· != '=')).tail with
    | [] => some []
    | vs => (splitOn ',' vs).mapM hexNumber?
  return { first, last, stride, values }

/-- A table of code points. -/
structure Table where
  runs : List Run

namespace Table

/-- The table that a text writes. -/
def ofText (s : String) : Table := ⟨(words s.toList).filterMap Run.read?⟩

/-- The entry that covers a character. -/
def run? (t : Table) (c : Char) : Option Run := t.runs.find? (·.covers c.toNat)

/-- A character is covered. -/
def contains (t : Table) (c : Char) : Bool := (t.run? c).isSome

/-- The value of a character, the same along a run. -/
def value? (t : Table) (c : Char) : Option Nat := (t.run? c).bind (·.values.head?)

/-- What a character is mapped to. -/
def image? (t : Table) (c : Char) : Option (List Char) :=
  (t.run? c).map fun r => (r.image c.toNat).map Char.ofNat

end Table

end TaskConsole.Text
