import TaskConsole.Transcript

/-!
# Rounds — the main loop, move by move

Datagrams come and operations end at any time, also while the main loop is in the middle
of a round.  So a round is taken apart into moves, between which anything can come:

* `Phase` — where the main loop stands in a round;
* `Cue` — what it finds there: what the clock says, and a key;
* `Rounds.proceed` — its next move: one piece of news, one event, the screen, a key;
* `Rounds.act`, `Rounds.run` — a move, or what comes in between. -/

namespace TaskConsole

/-- Where the main loop stands in a round. -/
inductive Phase where
  -- the news are taken in, one by one
  | news
  -- and then the events
  | events
  | tidying
  | drawing
  -- a key may be pressed; the screen shows whether something is in flight
  | keys (busy : Bool)
  | ended
  deriving DecidableEq

/-- What the main loop finds when it goes on. -/
structure Cue where
  -- the list has not been asked for on time for as long as the settings say
  due : Bool := false
  -- the status has stood for as long as the settings say
  stale : Bool := false
  size : Size := ⟨80, 24⟩
  -- a key, and when it is pressed
  key? : Option (Timestamp × Key) := none
  -- it is time to turn the mark
  ticks : Bool := false

/-- The main loop in the middle of a round. -/
structure Rounds where
  stage : Stage
  phase : Phase := .news

/-- What can happen while the main loop runs. -/
inductive Act where
  -- datagrams that were waiting together come in
  | datagrams (batch : List Datagram)
  -- an outstanding ticket, counted from the oldest, ends
  | reply (index : Nat) (delivery : Delivery)
  -- the main loop makes its next move
  | proceed (cue : Cue)

namespace Rounds

/-- The start, with a socket or the reason why there is none. -/
def opened (socket : Except String Address) : Rounds × List Request :=
  let (stage, requests) := Stage.opened socket
  ({ stage }, requests)

def dashboard (r : Rounds) : Dashboard := r.stage.dashboard

/-- The dashboard after a move, with the phase that comes next. -/
def onto (r : Rounds) (phase : Phase) (next : Dashboard × List Request) :
    Rounds × List Request :=
  ({ stage := { r.stage with dashboard := next.1 }, phase }, next.2)

/-- The end of a round. -/
def close (r : Rounds) (turns : Bool) (next : Dashboard × List Request) :
    Rounds × List Request :=
  r.onto .news (if turns then (next.1.turn, next.2) else next)

/-- The next move. A phase that takes things in goes on until nothing is left. -/
def proceed (r : Rounds) (cue : Cue) : Rounds × List Request :=
  match r.phase with
  | .news =>
    match r.dashboard.news with
    | [] => r.onto .events (r.dashboard, [])
    | e :: rest => r.onto .news ({ r.dashboard with news := rest }.advance (.discovered e))
  | .events =>
    match r.dashboard.session.unapplied with
    | [] => r.onto .tidying (r.dashboard, [])
    | event :: _ => r.onto .events (r.dashboard.takeEvent event)
  | .tidying => r.onto .drawing (r.dashboard.tidy cue.due cue.stale)
  | .drawing => r.onto (.keys r.dashboard.isBusy) ((r.dashboard.draw cue.size).1, [])
  | .keys busy =>
    match cue.key? with
    | some (now, key) =>
      if key.quits then r.onto .ended (r.dashboard, [])
      else r.close (cue.ticks && busy) (r.dashboard.press now key)
    | none => r.close (cue.ticks && busy) (r.dashboard, [])
  | .ended => (r, [])

/-- One thing happens. -/
def act (r : Rounds) : Act → Rounds × List Request
  | .datagrams batch =>
    let (listener, news) := r.stage.listener.receive batch
    ({ r with stage := { listener, dashboard := r.dashboard.hear news } }, [])
  | .reply i d => r.onto r.phase (r.dashboard.advance (.answer i d))
  | .proceed cue => r.proceed cue

/-- One thing after the other. -/
def run (r : Rounds) : List Act → Rounds × List Request
  | [] => (r, [])
  | a :: rest =>
    let (r, first) := r.act a
    let (r, others) := r.run rest
    (r, first ++ others)

end Rounds

end TaskConsole
