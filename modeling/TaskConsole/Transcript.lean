import TaskConsole.Dashboard.Loop
import TaskConsole.Settings

/-!
# Transcripts — what happens around the dashboard, line by line

The dashboard can be run from a transcript: each line names a time and what happened
then.  A datagram arrived, a key was pressed, or the oldest request was answered:

* `2024-05-01T02:00:00Z datagram …` with the content of the datagram,
* `2024-05-01T02:00:00Z key Down` with a character or the name of a key,
* `2024-05-01T02:00:00Z reply 200 …` with the status and the body, and `closed` or
  `truncated` in their place for a reply that did not arrive whole.

`Moment.read?` reads a line, and `Stage.take` is what the dashboard makes of it. -/

namespace TaskConsole

/-- What can happen around the dashboard. -/
inductive Happening where
  | datagram (bytes : List UInt8)
  | key (k : Key)
  | reply (d : Delivery)

/-- Something that happened at a time. -/
structure Moment where
  time : Timestamp
  what : Happening

namespace Moment

/-- A text cut at its first space. -/
def splitWord (cs : List Char) : String × List Char :=
  (String.ofList (cs.takeWhile (· ≠ ' ')), (cs.dropWhile (· ≠ ' ')).drop 1)

/-- A key by its name, or a character by itself. -/
def keyOf (name : List Char) : Key :=
  match String.ofList name with
  | "Up" => .up
  | "Down" => .down
  | "Left" => .left
  | "Right" => .right
  | "Tab" => .tab
  | "Enter" => .enter
  | _ =>
    match name with
    | [c] => .char c
    | _ => .other

/-- A delivery by its status and body. -/
def deliveryOf? (cs : List Char) : Option Delivery :=
  let (status, body) := splitWord cs
  match status with
  | "closed" => some .closed
  | "truncated" => some .truncated
  | _ => (Text.natural? status.toList).map fun n =>
      .reply n (Utf8.encode (String.ofList body))

/-- What a word and the text after it say. -/
def happening? (word : String) (rest : List Char) : Option Happening :=
  match word with
  | "datagram" => some (.datagram (Utf8.encode (String.ofList rest)))
  | "key" => some (.key (keyOf rest))
  | "reply" => (deliveryOf? rest).map .reply
  | _ => none

/-- A line of a transcript. -/
def read? (line : String) : Option Moment := do
  let (time, rest) := splitWord line.toList
  let (word, rest) := splitWord rest
  return { time := ← Timestamp.read? time, what := ← happening? word rest }

end Moment

/-- A dashboard with the listener that brings it news. -/
structure Stage where
  dashboard : Dashboard
  listener : Listener

namespace Stage

/-- The start, with a socket or the reason why there is none. -/
def opened (socket : Except String Address) : Stage × List Request :=
  let (listener, _, news) := Listener.start {} socket
  let (dashboard, requests) := Dashboard.opened news
  ({ dashboard, listener }, requests)

/-- One thing happens; nothing is left when it ends the program. -/
def take (s : Stage) (m : Moment) : Option (Stage × List Request) :=
  match m.what with
  | .datagram bytes =>
    let (listener, news) := s.listener.receive [⟨bytes, .loopback, m.time⟩]
    some ({ listener, dashboard := s.dashboard.hear news }, [])
  | .key k =>
    if k.quits then none
    else
      let (dashboard, requests) := s.dashboard.press m.time k
      some ({ s with dashboard }, requests)
  | .reply d =>
    let (dashboard, requests) := s.dashboard.advance (.answer 0 d)
    some ({ s with dashboard }, requests)

/-- All news and events are taken in and the screen is drawn. -/
def present (s : Stage) (size : Size) : Stage × Screen × List Request :=
  let (dashboard, requests) := s.dashboard.drain
  let (dashboard, screen) := dashboard.draw size
  ({ s with dashboard }, screen, requests)

end Stage

end TaskConsole
