import TaskConsole.Console.Session
import TaskConsole.Dashboard.View

/-!
# The main loop — keys, news and events, one round at a time

A round takes in the news from discovery, then the events of the console, draws the
screen and acts on a key.  While it does, operations without a request can end, and so
can the refresh that an applied event brings: a run or a save brings one at most, and
that brings nothing.

* `Dashboard` — what is shown, the session behind it, the news that wait;
* `Dashboard.opened` — the start: the list is asked for;
* `Dashboard.drain` — all news and events taken in;
* `Dashboard.tidy`, `Dashboard.draw`, `Dashboard.press`, `Dashboard.turn` — the rest of a
  round. -/

namespace TaskConsole

/-- What can be pressed. -/
inductive Key where
  | char (c : Char)
  | up
  | down
  | left
  | right
  | tab
  | enter
  | other
  deriving DecidableEq

/-- The key that ends the program. -/
def Key.quits (k : Key) : Bool := k = .char 'q'

/-- A dashboard with what surrounds it. -/
structure Dashboard where
  app : App := {}
  session : Session := {}
  -- the news from discovery that wait, the oldest first
  news : List DiscoveryEvent := []

namespace Dashboard

/-- Something is in flight. -/
def isBusy (d : Dashboard) : Bool := d.session.console.isBusy

/-- The session goes on by one step. -/
def advance (d : Dashboard) (step : Step) : Dashboard × List Request :=
  let (session, reaction) := d.session.step step
  ({ d with session }, reaction.requests)

/-- The status that tells that no scheduler is known yet. -/
def awaitDiscovery (d : Dashboard) : Dashboard :=
  { d with app := d.app.setStatus "Waiting for service discovery..." }

/-- The start, with the news that discovery has by then: the list is asked for. -/
def opened (news : List DiscoveryEvent) : Dashboard × List Request :=
  let d : Dashboard := { news }
  let (next, requests) := d.advance .refresh
  (if d.session.console.canRefresh then next else next.awaitDiscovery, requests)

/-- Discovery has news. -/
def hear (d : Dashboard) (news : List DiscoveryEvent) : Dashboard :=
  { d with news := d.news ++ news }

/-! ## Draining -/

/-- News taken in, the oldest first. -/
def drainNews (d : Dashboard) : List DiscoveryEvent → Dashboard × List Request
  | [] => ({ d with news := [] }, [])
  | e :: rest =>
    let (d, first) := d.advance (.discovered e)
    let (d, others) := d.drainNews rest
    (d, first ++ others)

/-- The oldest event is applied and shown. -/
def takeEvent (d : Dashboard) (event : ConsoleEvent) : Dashboard × List Request :=
  let (next, requests) := d.advance (.apply 0)
  ({ next with app := next.app.onEvent event }, requests)

/-- All tickets without a request end. -/
def tellFailures (d : Dashboard) : Dashboard := { d with session := d.session.tellFailures.1 }

/-- So many events at most taken in, the oldest first. What has no request ends before
each of them. -/
def drainEvents (d : Dashboard) : Nat → Dashboard × List Request
  | 0 => (d, [])
  | steps + 1 =>
    let d := d.tellFailures
    match d.session.unapplied with
    | [] => (d, [])
    | event :: _ =>
      let (d, first) := d.takeEvent event
      let (d, others) := d.drainEvents steps
      (d, first ++ others)

/-- All news and all events taken in. Every event brings at most one more, which
brings none, and every ticket that is outstanding ends in one at most. -/
def drain (d : Dashboard) : Dashboard × List Request :=
  let (d, first) := d.drainNews d.news
  let (d, others) :=
    d.drainEvents (2 * d.session.unapplied.length + d.session.outstanding.length)
  (d, first ++ others)

/-! ## The rest of a round -/

/-- The list is asked for when that is due, and a status that is old enough goes. -/
def tidy (d : Dashboard) (due stale : Bool) : Dashboard × List Request :=
  let (d, requests) := if due then d.advance .refresh else (d, [])
  ({ d with app := d.app.clearStatus stale d.isBusy }, requests)

/-- The screen is drawn. -/
def draw (d : Dashboard) (size : Size) : Dashboard × Screen :=
  let (app, screen) := d.app.view size d.isBusy
  ({ d with app }, screen)

/-- What happens to the selected task; without one, only the status changes. -/
def onSelected (d : Dashboard) (f : Task → Step) : Dashboard × List Request :=
  match d.app.selectedTask? with
  | some task => d.advance (f task)
  | none => ({ d with app := d.app.setError "No task selected" }, [])

/-- A task with its other state. -/
def toggled (task : Task) : Task := { task with enabled := !task.enabled }

/-- A new task like another. -/
def duplicate (task : Task) : Task := { task with id := none, name := task.name ++ " (copy)" }

/-- A key is pressed, at a time. -/
def press (d : Dashboard) (now : Timestamp) : Key → Dashboard × List Request
  | .left => ({ d with app := d.app.nextTab }, [])
  | .right => ({ d with app := d.app.nextTab }, [])
  | .tab => ({ d with app := d.app.nextTab }, [])
  | .down => ({ d with app := d.app.selectOffset 1 }, [])
  | .up => ({ d with app := d.app.selectOffset (-1) }, [])
  | .char 'r' =>
    let (next, requests) := d.advance .refresh
    let waits := !d.session.console.canRefresh && next.session.console.pendingRefresh
    (if waits then next.awaitDiscovery else next, requests)
  | .enter => d.onSelected .runNow
  | .char 'x' => d.onSelected .runNow
  | .char 'e' => d.onSelected fun task => .save now (toggled task)
  | .char 'd' => d.onSelected fun task => .save now (duplicate task)
  | _ => (d, [])

/-- The mark turns. -/
def turn (d : Dashboard) : Dashboard :=
  { d with app := { d.app with spinner := (d.app.spinner + 1) % spinnerFrames.length } }

end Dashboard

end TaskConsole
