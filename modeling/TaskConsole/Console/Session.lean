import TaskConsole.Console.Basic

/-!
# Sessions — a console with its requests and its stream of events

A session carries out what the console wants done.  An operation becomes a ticket and
stays outstanding until it ends: a request that was made ends when it is answered, and
an operation whose request cannot be prepared ends without one, at any time later.
Events go to one receiver, in order, and wait there until they are applied.

* `Session` — the console, the outstanding tickets, the events that wait;
* `Step` — what can happen to a session;
* `Session.step`, `Session.run` — one thing happens, or one after the other, with the
  events told and the requests made on the way;
* `Session.tellFailures` — the steps that end what has no request, at once. -/

namespace TaskConsole

/-- An operation that began and has not ended yet, with the client as it was then. -/
structure Ticket where
  client : Client
  operation : Operation

namespace Ticket

/-- The request, or the reason why none can be prepared. -/
def prepared (t : Ticket) : Except Failure Request := t.client.prepare t.operation

/-- The request that is made. -/
def request? (t : Ticket) : Option Request := t.prepared.toOption

/-- The event that ends a ticket: what a request meets with decides it, and without a
request, nothing but the reason. -/
def outcome (t : Ticket) (d : Delivery) : ConsoleEvent :=
  match t.prepared with
  | .ok request => t.operation.outcome request.url d
  | .error f => t.operation.failure f

end Ticket

/-- A console with what surrounds it. -/
structure Session where
  console : Console := {}
  -- what began and has not ended yet, the oldest first
  outstanding : List Ticket := []
  -- the events that were received and not applied yet, the oldest first
  unapplied : List ConsoleEvent := []
  receiving : Bool := true

/-- What can be seen of a step. -/
structure Reaction where
  events : List ConsoleEvent := []
  requests : List Request := []

/-- What can happen to a session. -/
inductive Step where
  | discovered (event : DiscoveryEvent)
  | refresh
  | runNow (task : Task)
  | save (now : Timestamp) (task : Task)
  -- an outstanding ticket, counted from the oldest, ends: its request meets with a
  -- delivery, or the reason why it has none is told
  | answer (index : Nat) (delivery : Delivery)
  -- an event that waits, counted from the oldest, is applied
  | apply (index : Nat)
  -- an event that was never received is applied
  | applyForeign (event : ConsoleEvent)
  -- the receiver goes away; what it received before can still be applied
  | closeReceiver

namespace Session

/-- Events are told; nobody hears them without a receiver. -/
def tell (s : Session) (events : List ConsoleEvent) : Session × Reaction :=
  if s.receiving then
    ({ s with unapplied := s.unapplied ++ events }, { events })
  else (s, {})

/-- One effect: an event, or an operation that begins and makes its request if that can be
prepared. -/
def perform (s : Session) : Effect → Session × Reaction
  | .tell event => s.tell [event]
  | .begin client op =>
    let ticket : Ticket := ⟨client, op⟩
    ({ s with outstanding := s.outstanding ++ [ticket] },
      { requests := ticket.request?.toList })

/-- Effects one after the other. -/
def performAll (s : Session) : List Effect → Session × Reaction
  | [] => (s, {})
  | e :: rest =>
    let (s, first) := s.perform e
    let (s, others) := s.performAll rest
    (s, ⟨first.events ++ others.events, first.requests ++ others.requests⟩)

/-- An operation of the console, with its effects. -/
def operate (s : Session) (f : Console → Console × List Effect) : Session × Reaction :=
  let (console, effects) := f s.console
  { s with console }.performAll effects

/-- One thing happens. -/
def step (s : Session) : Step → Session × Reaction
  | .discovered event => s.operate (·.discovered event)
  | .refresh => s.operate (·.refresh)
  | .runNow task => s.operate (·.runNow task)
  | .save now task => s.operate (·.save now task)
  | .answer i d =>
    match s.outstanding[i]? with
    | some t => { s with outstanding := s.outstanding.eraseIdx i }.tell [t.outcome d]
    | none => (s, {})
  | .apply i =>
    match s.unapplied[i]? with
    | some event => { s with unapplied := s.unapplied.eraseIdx i }.operate (·.apply event)
    | none => (s, {})
  | .applyForeign event => s.operate (·.apply event)
  | .closeReceiver => ({ s with receiving := false }, {})

/-- One thing after the other, with what can be seen of each. -/
def run (s : Session) : List Step → Session × List Reaction
  | [] => (s, [])
  | a :: rest =>
    let (s, first) := s.step a
    let (s, others) := s.run rest
    (s, first :: others)

/-- The steps that end the tickets without a request, the oldest first, when the list of
tickets begins at a place. -/
def failureSteps (place : Nat) : List Ticket → List Step
  | [] => []
  | t :: rest =>
    if t.request?.isSome then failureSteps (place + 1) rest
    else .answer place .closed :: failureSteps place rest

/-- All tickets without a request end. -/
def tellFailures (s : Session) : Session × List Reaction :=
  s.run (failureSteps 0 s.outstanding)

end Session

end TaskConsole
