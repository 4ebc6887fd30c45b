import TaskConsole.Client.Basic
import TaskConsole.Discovery.Listener

/-!
# The console — what is in flight, and what to do next

The console turns the operator's wishes and the news from discovery into requests
and events.  It never waits: an operation only says what is to be done, and the
outcome of a request comes back as an event that is applied later.  That is the
only time at which something in flight is settled.

* `ConsoleEvent` — everything that the operator is told;
* `Effect` — what an operation wants done: tell an event, or begin a request;
* `Console.discovered`, `Console.refresh`, `Console.runNow`, `Console.save`,
  `Console.apply` — the operations;
* `Operation.outcome` — the event that ends a request. -/

namespace TaskConsole

/-- What the operator is told. -/
inductive ConsoleEvent where
  | tasksReplaced (tasks : List Task)
  | refreshFailed (message : String)
  -- a run or a save failed before the scheduler gave a verdict
  | operationFailed (message : String)
  | runResult (verdict : Verdict)
  | saveResult (result : SaveResult)
  | serviceUrlChanged (url : String)
  -- refused without a request, or reported by discovery; settles nothing
  | error (message : String)
  deriving DecidableEq

namespace ConsoleEvent

/-- The scheduler carried out a run or a save, so that the list is out of date. A
run counts whatever its verdict. -/
def callsForRefresh : ConsoleEvent → Bool
  | runResult _ => true
  | saveResult r => r.ok
  | _ => false

/-- The event ends a list request. -/
def settlesRefresh : ConsoleEvent → Bool
  | tasksReplaced _ => true
  | refreshFailed _ => true
  | _ => false

/-- The event ends a run or save request. -/
def settlesOperation : ConsoleEvent → Bool
  | operationFailed _ => true
  | runResult _ => true
  | saveResult _ => true
  | _ => false

end ConsoleEvent

/-! ## Outcomes of requests -/

namespace Operation

/-- The event for an operation that failed. -/
def failure : Operation → Failure → ConsoleEvent
  | fetch, f => .refreshFailed f.message
  | _, f => .operationFailed f.message

/-- The event for the delivery that a request met with. -/
def outcome (op : Operation) (url : Url) (d : Delivery) : ConsoleEvent :=
  match op with
  | fetch =>
    match d.tasks url with
    | .ok tasks => .tasksReplaced tasks
    | .error f => op.failure f
  | run _ =>
    match d.verdict url with
    | .ok v => .runResult v
    | .error f => op.failure f
  | create _ =>
    match d.verdict url with
    | .ok v => .saveResult (v.saved true)
    | .error f => op.failure f
  | update _ =>
    match d.verdict url with
    | .ok v => .saveResult (v.saved false)
    | .error f => op.failure f

/-- The operation that saves a task: one without an id is new. -/
def save (task : Task) : Operation :=
  match task.id with
  | none => create task
  | some _ => update task

end Operation

/-! ## The console -/

/-- What an operation of the console wants done. -/
inductive Effect where
  | tell (event : ConsoleEvent)
  -- a request begins, with the client as it is now
  | begin (client : Client) (op : Operation)

/-- What is known and what is in flight. -/
structure Console where
  client : Client := {}
  loading : Bool := false
  inFlight : Nat := 0
  -- a list request waits for the address of a scheduler
  pendingRefresh : Bool := false
  deriving DecidableEq

namespace Console

/-- Something is in flight. -/
def isBusy (c : Console) : Bool := 0 < c.inFlight || c.loading

/-- A refresh would begin a request. -/
def canRefresh (c : Console) : Bool := !c.loading && c.client.baseUrl.isSome

/-- The list is asked for: not while it is being fetched, and later if no scheduler
is known. -/
def refresh (c : Console) : Console × List Effect :=
  if c.loading then (c, [])
  else if c.client.baseUrl.isNone then ({ c with pendingRefresh := true }, [])
  else ({ c with loading := true }, [.begin c.client .fetch])

/-- News from discovery: an address is taken over, and a list request that waits for
one is tried. -/
def discovered (c : Console) : DiscoveryEvent → Console × List Effect
  | .serviceUrlChanged url =>
    let moved := { c with client := c.client.retarget url }
    let told := Effect.tell (.serviceUrlChanged url)
    if moved.pendingRefresh then
      let (next, effects) := { moved with pendingRefresh := false }.refresh
      (next, told :: effects)
    else (moved, [told])
  | .error message => (c, [.tell (.error message)])

/-- A run or save request begins. -/
def launch (c : Console) (op : Operation) : Console × List Effect :=
  ({ c with inFlight := c.inFlight + 1 }, [.begin c.client op])

/-- A run of a task, refused when the task is disabled or was never saved. -/
def runNow (c : Console) (task : Task) : Console × List Effect :=
  if task.enabled then
    match task.id with
    | some id => c.launch (.run id)
    | none => (c, [.tell (.error Failure.missingId.message)])
  else (c, [.tell (.error "Task is disabled")])

/-- A task with the present as its next time when it has none. -/
def scheduledFrom (now : Timestamp) (task : Task) : Task :=
  { task with nextExecution := some (task.nextExecution.getD now) }

/-- A task is saved, refused when it has a defect. -/
def save (c : Console) (now : Timestamp) (task : Task) : Console × List Effect :=
  match task.defect? with
  | some defect => (c, [.tell (.error defect.message)])
  | none => c.launch (Operation.save (scheduledFrom now task))

/-- An event settles what it ends; a run or a successful save makes the list be
fetched again. -/
def apply (c : Console) (event : ConsoleEvent) : Console × List Effect :=
  let settled :=
    { c with
      loading := c.loading && !event.settlesRefresh
      inFlight := if event.settlesOperation then c.inFlight - 1 else c.inFlight }
  if event.callsForRefresh then settled.refresh else (settled, [])

end Console

end TaskConsole
