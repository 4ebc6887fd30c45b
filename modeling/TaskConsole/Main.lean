import TaskConsole.Listing
import TaskConsole.Transcript

/-!
# Command line — the two programs over standard input and output

* `list` reads a transcript to its end, takes the datagrams in it one by one and the
  first reply in it for the request, and prints the report;
* `dashboard` reads a transcript line by line and prints the requests made and the
  screen after each line, until `q` is pressed.

The settings come from the environment. -/

namespace TaskConsole.CommandLine

/-- The settings as they are found in the environment. -/
def rawSettings : IO RawSettings := do
  return {
    gossipBind := ← IO.getEnv "RUNINATOR_GOSSIP_BIND"
    gossipPort := ← IO.getEnv "RUNINATOR_GOSSIP_PORT"
    httpTimeout := ← IO.getEnv "COMMAND_CENTER_HTTP_TIMEOUT_SECS"
    refreshInterval := ← IO.getEnv "COMMAND_CENTER_REFRESH_SECS"
    statusClearDelay := ← IO.getEnv "COMMAND_CENTER_STATUS_CLEAR_SECS" }

/-- The socket that the settings ask for. The transcript takes its place, so that it
can always be opened. -/
def socketOf (settings : Settings) : Except String Address :=
  .ok (bindHost settings.gossipBind)

/-- A line without its line break. -/
def chomp (line : String) : String := String.ofList (line.toList.filter (· ≠ '\n'))

/-- The line of a request. -/
def requestLine (r : Request) : String := r.method.text ++ " " ++ r.url.requestText

/-- The line of an entry of a report. -/
def entryLine (e : LogEntry) : String :=
  e.fields.foldl (fun line (key, text) => line ++ " " ++ key ++ "=" ++ text) e.message

/-- The text of a row of a screen. -/
def rowText (row : Line) : String :=
  String.join (row.map fun
    | .symbol text _ => text
    | .covered => "")

/-- The size of the screens that are printed. -/
def screenSize : Size := ⟨80, 24⟩

/-- All lines of a transcript that can be read. -/
partial def readAll (input : IO.FS.Stream) : IO (List Moment) := do
  let line ← input.getLine
  if line.isEmpty then return []
  return (Moment.read? (chomp line)).toList ++ (← readAll input)

/-- The batch of a moment, if it is a datagram. -/
def batchOf? (m : Moment) : Option (List Datagram) :=
  match m.what with
  | .datagram bytes => some [⟨bytes, .loopback, m.time⟩]
  | _ => none

/-- The delivery of a moment, if it is a reply. -/
def deliveryOf? (m : Moment) : Option Delivery :=
  match m.what with
  | .reply d => some d
  | _ => none

/-- The program that lists the tasks once. -/
def runList : IO UInt32 := do
  let settings := Settings.resolve (← rawSettings)
  let moments ← readAll (← IO.getStdin)
  let reply := (moments.findSome? deliveryOf?).getD .closed
  let report :=
    Listing.run settings (socketOf settings) (moments.filterMap batchOf?) fun _ => reply
  for e in report.log do
    IO.println (entryLine e)
  match report.result with
  | .ok () => return 0
  | .error reason =>
    IO.eprintln ("Error: " ++ reason)
    return 1

/-- The screen is printed, and the program goes on with the next line. -/
partial def play (input : IO.FS.Stream) (stage : Stage) (requests : List Request) :
    IO Unit := do
  let (stage, screen, more) := stage.present screenSize
  for r in requests ++ more do
    IO.println (requestLine r)
  for row in screen do
    IO.println (rowText row)
  let line ← input.getLine
  if line.isEmpty then return
  match Moment.read? (chomp line) with
  | none => play input stage []
  | some m =>
    match stage.take m with
    | none => return
    | some (stage, requests) => play input stage requests

/-- The program that shows the dashboard. -/
def runDashboard : IO UInt32 := do
  let settings := Settings.resolve (← rawSettings)
  let (stage, requests) := Stage.opened (socketOf settings)
  play (← IO.getStdin) stage requests
  return 0

end TaskConsole.CommandLine

/-- The command line: the name of one of the two programs. -/
def main (args : List String) : IO UInt32 :=
  match args with
  | ["list"] => TaskConsole.CommandLine.runList
  | ["dashboard"] => TaskConsole.CommandLine.runDashboard
  | _ => do
    IO.eprintln "usage: list | dashboard"
    return 2
