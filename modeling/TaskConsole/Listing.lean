import TaskConsole.Client.Basic
import TaskConsole.Discovery.Listener
import TaskConsole.Settings

/-!
# The listing — the tasks reported once, without a screen

The listing opens the socket for announcements, waits until one names a scheduler,
asks that for its tasks and reports them.

* `LogEntry`, `Report` — what is reported, and how it ended;
* `Listing.firstUrl?` — the address that the waiting ends with;
* `Listing.run` — the whole course. -/

namespace TaskConsole

/-- A line of the report. -/
structure LogEntry where
  message : String
  fields : List (String × String)
  deriving DecidableEq

/-- What became of a listing. -/
structure Report where
  log : List LogEntry
  requests : List Request
  result : Except String Unit

namespace Listing

/-- An id that may be absent, as it is reported. -/
def idText : Option Int64 → String
  | some n => "Some(" ++ Text.showInt n.toInt ++ ")"
  | none => "None"

/-- The line that the waiting begins with. -/
def waitingEntry (settings : Settings) : LogEntry where
  message := "Waiting for a service announcement"
  fields :=
    [("bind", settings.gossipBind), ("port", Text.showNat settings.gossipPort.toNat)]

/-- The line that tells how many tasks there are. -/
def fetchedEntry (url : String) (tasks : List Task) : LogEntry where
  message := "Fetched tasks"
  fields := [("url", url), ("count", Text.showNat tasks.length)]

/-- The line of a task. -/
def taskEntry (t : Task) : LogEntry where
  message := "Task"
  fields :=
    [("id", idText t.id), ("name", t.name), ("cron", t.cronSchedule),
     ("next_run", displayTime t.nextExecution),
     ("enabled", if t.enabled then "true" else "false"),
     ("timeout_ms", Text.showInt t.timeout.toInt)]

/-- The address in a list of news, the first if there are several. -/
def urlOf? (news : List DiscoveryEvent) : Option String :=
  news.findSome? fun
    | .serviceUrlChanged url => some url
    | .error _ => none

/-- The first address that a listener publishes, batch after batch. -/
def firstUrl? (l : Listener) : List (List Datagram) → Option String
  | [] => none
  | batch :: rest =>
    let (next, news) := l.receive batch
    match urlOf? news with
    | some url => some url
    | none => firstUrl? next rest

/-- The course from the address on. -/
def runAt (net : Network) (waiting : LogEntry) (url : String) : Report :=
  let client := Client.retarget {} url
  let requests := match client.prepare .fetch with
    | .ok request => [request]
    | .error _ => []
  match client.fetchTasks net with
  | .ok tasks =>
    { log := waiting :: fetchedEntry url tasks :: tasks.map taskEntry
      requests, result := .ok () }
  | .error f => { log := [waiting], requests, result := .error f.message }

/-- The whole course: with a socket or the reason why there is none, batches of
datagrams, and a network. -/
def run (settings : Settings) (socket : Except String Address)
    (batches : List (List Datagram)) (net : Network) : Report :=
  match Listener.start {} socket with
  | (_, .error f, _) =>
    { log := [], requests := [],
      result := .error ("gossip listener did not start: " ++ f.message) }
  | (listener, .ok (), _) =>
    match firstUrl? listener batches with
    | some url => runAt net (waitingEntry settings) url
    | none =>
      { log := [waitingEntry settings], requests := [],
        result := .error "no service announced within 30s" }

end Listing

end TaskConsole
