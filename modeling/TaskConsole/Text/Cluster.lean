import TaskConsole.Text.Cluster.Table

/-!
# Clusters — the characters that a reader takes for one

A cluster is what a reader takes for one character: a letter with its marks, a Hangul
syllable with its letters, a line break of two characters, pictographs tied together.
The rules are those of the extended grapheme clusters of UAX 29.

* `BreakClass`, `BreakClass.of` — what the rules tell apart;
* `ClusterState`, `ClusterState.joins` — what was read of a cluster, and whether a
  character belongs to it;
* `clusters` — a text in clusters; nothing of the text is lost. -/

namespace TaskConsole.Text

/-- What the rules of clusters tell apart. -/
inductive BreakClass where
  | carriageReturn
  | lineFeed
  | control
  | extending
  | linker
  | joiner
  | nonJoiner
  | spacingMark
  | prepended
  | regionalIndicator
  | leadingLetter
  | vowelLetter
  | trailingLetter
  | openSyllable
  | closedSyllable
  | pictograph
  | conjunctConsonant
  | other
  deriving DecidableEq, Repr

namespace BreakClass

/-- The class of a Hangul letter or syllable. -/
def ofHangul? (n : Nat) : Option BreakClass :=
  if 0x1100 ≤ n ∧ n ≤ 0x115F ∨ 0xA960 ≤ n ∧ n ≤ 0xA97C then some leadingLetter
  else if 0x1160 ≤ n ∧ n ≤ 0x11A7 ∨ 0xD7B0 ≤ n ∧ n ≤ 0xD7C6 then some vowelLetter
  else if 0x11A8 ≤ n ∧ n ≤ 0x11FF ∨ 0xD7CB ≤ n ∧ n ≤ 0xD7FB then some trailingLetter
  else if 0xAC00 ≤ n ∧ n ≤ 0xD7A3 then
    some (if (n - 0xAC00) % 28 = 0 then openSyllable else closedSyllable)
  else none

/-- The class of a character outside ASCII, by the tables. -/
def ofTables (c : Char) : BreakClass :=
  if controlTable.contains c then control
  else if conjunctLinkerTable.contains c then linker
  else if extendTable.contains c then extending
  else if spacingMarkTable.contains c then spacingMark
  else if prependTable.contains c then prepended
  else if pictographTable.contains c then pictograph
  else if conjunctConsonantTable.contains c then conjunctConsonant
  else other

/-- The class of a character. -/
def of (c : Char) : BreakClass :=
  let n := c.toNat
  if n = 0x0D then carriageReturn
  else if n = 0x0A then lineFeed
  else if n < 0x20 then control
  else if n < 0x7F then other
  else if n = 0x200C then nonJoiner
  else if n = 0x200D then joiner
  else if 0x1F1E6 ≤ n ∧ n ≤ 0x1F1FF then regionalIndicator
  else if 0x16D63 = n ∨ 0x16D67 ≤ n ∧ n ≤ 0x16D6A then vowelLetter
  else (ofHangul? n).getD (ofTables c)

/-- A class that always stands alone. -/
def standsAlone : BreakClass → Bool
  | carriageReturn | lineFeed | control => true
  | _ => false

/-- A class that extends the character before it. -/
def isExtending : BreakClass → Bool
  | extending | linker | nonJoiner => true
  | _ => false

/-- Letters of a Hangul syllable that belong together. -/
def joinsSyllable : BreakClass → BreakClass → Bool
  | leadingLetter, leadingLetter | leadingLetter, vowelLetter => true
  | leadingLetter, openSyllable | leadingLetter, closedSyllable => true
  | openSyllable, vowelLetter | vowelLetter, vowelLetter => true
  | openSyllable, trailingLetter | vowelLetter, trailingLetter => true
  | closedSyllable, trailingLetter | trailingLetter, trailingLetter => true
  | _, _ => false

end BreakClass

/-- How far a pair of consonants has come. -/
inductive Conjunct where
  | none
  | consonant
  | linked
  deriving DecidableEq, Repr

/-- What was read of a cluster, as far as the rules ask for it. -/
structure ClusterState where
  last : BreakClass
  -- a pictograph was read, and after it only what extends it
  pictured : Bool
  -- after that, a joiner was read just now
  tied : Bool
  conjunct : Conjunct
  -- the last character is a regional indicator that waits for another
  halfFlag : Bool
  deriving DecidableEq, Repr

namespace ClusterState

/-- The state before any character. -/
def start : ClusterState := ⟨.other, false, false, .none, false⟩

/-- The state after one more character. -/
def next (s : ClusterState) (b : BreakClass) : ClusterState where
  last := b
  pictured := b = .pictograph || (s.pictured && b.isExtending)
  tied := s.pictured && b = .joiner
  conjunct :=
    match b with
    | .conjunctConsonant => .consonant
    | .linker => if s.conjunct = .none then .none else .linked
    | .extending | .joiner => s.conjunct
    | _ => .none
  halfFlag := b = .regionalIndicator && !s.halfFlag

/-- A character of a class belongs to the cluster that was read. -/
def joins (s : ClusterState) (b : BreakClass) : Bool :=
  if s.last = .carriageReturn ∧ b = .lineFeed then true
  else if s.last.standsAlone || b.standsAlone then false
  else
    s.last.joinsSyllable b || b.isExtending || b = .joiner || b = .spacingMark
      || s.last = .prepended
      || (s.conjunct = .linked && b = .conjunctConsonant)
      || (s.tied && b = .pictograph)
      || (s.halfFlag && b = .regionalIndicator)

end ClusterState

/-- The clusters of a text, of which the first has begun; its characters stand last
first. -/
def clustersFrom (state : ClusterState) (begun : List Char) : List Char → List (List Char)
  | [] => [begun.reverse]
  | c :: rest =>
    let b := BreakClass.of c
    if state.joins b then clustersFrom (state.next b) (c :: begun) rest
    else begun.reverse :: clustersFrom (ClusterState.start.next b) [c] rest

/-- The clusters of a text. -/
def clusters : List Char → List (List Char)
  | [] => []
  | c :: rest => clustersFrom (ClusterState.start.next (.of c)) [c] rest

theorem flatten_clustersFrom (state : ClusterState) (begun cs : List Char) :
    (clustersFrom state begun cs).flatten = begun.reverse ++ cs := by
  induction cs generalizing state begun with
  | nil => simp [clustersFrom]
  | cons c rest ih =>
    simp only [clustersFrom]
    split <;> simp [ih]

/-- Nothing of a text is lost. -/
@[simp] theorem flatten_clusters (cs : List Char) : (clusters cs).flatten = cs := by
  cases cs with
  | nil => rfl
  | cons c rest => simp [clusters, flatten_clustersFrom]

end TaskConsole.Text
