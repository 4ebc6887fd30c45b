import TaskConsole.Net.Percent
import TaskConsole.Net.Scheme
import TaskConsole.Text.Parts

/-!
# Paths — the segments of an address in normal form

A point stays where it is and two points go back by one segment, but never past a
segment that names a drive.  In an address of a file the drive comes first, and no
empty segments stand before the rest.

* `PathSoFar`, `PathSoFar.add` — the segments read, and one more;
* `Path.read` — a path in normal form, and whether it begins with a drive. -/

namespace TaskConsole

open Text

/-- A slash of either direction. -/
def isSlash (c : Char) : Bool := c == '/' || c == '\\'

/-- A character that is a slash in a scheme: only the web takes back slashes for slashes. -/
def Scheme.isSlashIn (s : Scheme) (c : Char) : Bool := c == '/' || (s.isSpecial && c == '\\')

namespace Path

/-- A text cut at every slash. -/
def segments (s : Scheme) (cs : List Char) : List (List Char) :=
  splitOn '/' (cs.map fun c => if s.isSlashIn c then '/' else c)

/-- A segment with its encoded points put back, to be compared. -/
def withPoints : List Char → List Char
  | '%' :: '2' :: 'e' :: rest => '.' :: withPoints rest
  | '%' :: '2' :: 'E' :: rest => '.' :: withPoints rest
  | c :: rest => c :: withPoints rest
  | [] => []

/-- A segment that names a drive: a letter and a colon or a bar. -/
def isDrive (segment : List Char) : Bool :=
  match segment with
  | [letter, mark] => letter.isAlpha && (mark == ':' || mark == '|')
  | _ => false

end Path

/-- The segments of a path, as far as it was read. -/
structure PathSoFar where
  -- the segments, the last first
  segments : List (List Char)
  -- the path of a file begins with a segment that names a drive
  namesDrive : Bool

namespace PathSoFar

/-- Back by one segment; a drive is never left. -/
def back (p : PathSoFar) : PathSoFar :=
  if (p.segments.head?.map Path.isDrive).getD false then p
  else { p with segments := p.segments.tail }

/-- One more segment, encoded. -/
def push (p : PathSoFar) (segment : List Char) : PathSoFar :=
  { p with segments := Percent.encode Percent.pathSet segment :: p.segments }

/-- The first segment of the path of a file, which a drive and its colon are cut from. -/
def pushFirst (p : PathSoFar) (segment : List Char) : PathSoFar :=
  match segment with
  | [letter, _] =>
    if Path.isDrive segment then { segments := [[letter, ':']], namesDrive := true }
    else p.push segment
  | letter :: ':' :: rest =>
    if letter.isAlpha then (p.push [letter, ':']).push rest else p.push segment
  | _ => p.push segment

/-- One more segment of a path, perhaps the last: at the end of a path points leave an
empty segment. -/
def add (s : Scheme) (p : PathSoFar) (segment : List Char) (isLast : Bool) : PathSoFar :=
  let points := Path.withPoints segment
  if points = ['.', '.'] then (if isLast then p.back.push [] else p.back)
  else if points = ['.'] then (if isLast then p.push [] else p)
  else if s = .file ∧ p.segments = [] then p.pushFirst segment
  else p.push segment

/-- All segments of a path. -/
def addAll (s : Scheme) (p : PathSoFar) : List (List Char) → PathSoFar
  | [] => p
  | [segment] => p.add s segment true
  | segment :: rest => addAll s (p.add s segment false) rest

/-- The text of a path. -/
def text (p : PathSoFar) : List Char := p.segments.reverse.flatMap ('/' :: ·)

end PathSoFar

/-- A path that began with a slash, in normal form, and whether it begins with a drive. -/
def Path.read (s : Scheme) (cs : List Char) : List Char × Bool :=
  let p := PathSoFar.addAll s ⟨[], false⟩ (Path.segments s cs)
  (if s = .file then '/' :: p.text.dropWhile (· == '/') else p.text, p.namesDrive)

end TaskConsole
