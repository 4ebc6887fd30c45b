import TaskConsole.Client.Body
import TaskConsole.Net.Exchange
import TaskConsole.Task.Codec

/-!
# The client — requests to the scheduler, and what their replies mean

A client knows the address of a scheduler, or none yet.  An operation is first
prepared, which can refuse it without touching the network, then exchanged for a
delivery, and the delivery is read as the operation's result.

* `Client`, `Client.retarget`, `Client.endpoint` — the address and the paths below it;
* `Operation`, `Client.prepare` — what can be asked, as a request;
* `Delivery.payload` — the body of a successful reply;
* `Client.fetchTasks`, `Client.requestRun`, `Client.createTask`, `Client.updateTask`,
  `Client.saveTask` — whole operations over a network. -/

namespace TaskConsole

/-- Access to a scheduler, once its address is known. -/
structure Client where
  baseUrl : Option String := none
  deriving DecidableEq

/-- What a scheduler can be asked. -/
inductive Operation where
  | fetch
  | run (id : Int64)
  | create (task : Task)
  | update (task : Task)

/-- The scheduler's answer to a create or update request. -/
structure SaveResult where
  ok : Bool
  message : String
  creating : Bool
  deriving DecidableEq, Repr

namespace Client

/-- A client with another address; a blank one takes the address away. -/
def retarget (_ : Client) (url : String) : Client :=
  { baseUrl := if Text.isBlankText url then none else some url }

/-- A base and a path with one slash between them. -/
def joinPath (base path : List Char) : List Char :=
  (base.reverse.dropWhile (· = '/')).reverse ++ '/' :: path.dropWhile (· = '/')

/-- The address of a path below the base. -/
def endpoint (c : Client) (path : String) : Except Failure String :=
  match c.baseUrl with
  | none => .error .noBackend
  | some base => .ok (String.ofList (joinPath base.toList path.toList))

/-- The path of all tasks. -/
def tasksPath : String := "tasks"

/-- The path of one task. -/
def taskPath (id : Int64) : String := "tasks/" ++ Text.showInt id.toInt

/-- The path that asks for a run of one task. -/
def runPath (id : Int64) : String := taskPath id ++ "/request_run"

/-- The target of a path; an address that is none is refused, and one to which no request
can be sent. -/
def target (c : Client) (path : String) : Except Failure Url := do
  let address ← c.endpoint path
  match Url.read? address with
  | some url =>
    let url := url.withoutCredentials
    if url.isSendable then return url
    else throw (.transport ("builder error for url (" ++ url.text ++ ")"))
  | none => throw (.transport "builder error")

/-- The request of an operation. An update needs an id; without an address, nothing
else is looked at. -/
def prepare (c : Client) : Operation → Except Failure Request
  | .fetch => do
    let url ← c.target tasksPath
    return { method := .get, url, declaresJson := false, body := none }
  | .run id => do
    let url ← c.target (runPath id)
    return { method := .post, url, declaresJson := true, body := none }
  | .create task => do
    let url ← c.target tasksPath
    return { method := .post, url, declaresJson := true, body := some task.toJson }
  | .update task => do
    let _ ← c.endpoint tasksPath
    match task.id with
    | none => throw .missingId
    | some id =>
      let url ← c.target (taskPath id)
      return { method := .patch, url, declaresJson := true, body := some task.toJson }

end Client

/-! ## Results -/

/-- The body of a complete reply with a status of success; any other delivery is a
failure of the transport. -/
def Delivery.payload (url : Url) : Delivery → Except Failure (List UInt8)
  | closed => .error (.transport ("error sending request for url (" ++ url.text ++ ")"))
  | truncated => .error (.transport "error decoding response body")
  | complete status body =>
    if Status.isSuccess status then .ok body
    else .error (.transport (errorText body ("HTTP " ++ Status.line status)))

namespace ReplyBody

/-- A list of tasks, the items that are no objects left out. -/
def tasks : ReplyBody → Except Failure (List Task)
  | taskList items => .ok (items.filterMap Task.ofJson?)
  | malformed => .error .unparsableTaskList
  | verdict v => .error (if v.message = "" then .unexpected else .service v.message)
  | message text => .error (.service text)
  | unrecognized => .error .unexpected

/-- A verdict. -/
def theVerdict : ReplyBody → Except Failure Verdict
  | verdict v => .ok v
  | _ => .error .unexpected

end ReplyBody

namespace Delivery

/-- The list of tasks that a delivery brings. -/
def tasks (url : Url) (d : Delivery) : Except Failure (List Task) := do
  (ReplyBody.classify (← d.payload url)).tasks

/-- The verdict that a delivery brings. -/
def verdict (url : Url) (d : Delivery) : Except Failure Verdict := do
  (ReplyBody.classify (← d.payload url)).theVerdict

end Delivery

namespace Verdict

/-- A verdict on a task that was created or updated. -/
def saved (v : Verdict) (creating : Bool) : SaveResult :=
  { ok := v.success, message := v.message, creating }

end Verdict

/-! ## Whole operations -/

namespace Client

/-- The list of all tasks. -/
def fetchTasks (c : Client) (net : Network) : Except Failure (List Task) := do
  let request ← c.prepare .fetch
  (net request).tasks request.url

/-- A run of a task. -/
def requestRun (c : Client) (net : Network) (id : Int64) : Except Failure Verdict := do
  let request ← c.prepare (.run id)
  (net request).verdict request.url

/-- A new task. -/
def createTask (c : Client) (net : Network) (task : Task) : Except Failure SaveResult := do
  let request ← c.prepare (.create task)
  return (← (net request).verdict request.url).saved true

/-- New values for a task. -/
def updateTask (c : Client) (net : Network) (task : Task) : Except Failure SaveResult := do
  let request ← c.prepare (.update task)
  return (← (net request).verdict request.url).saved false

/-- A task saved: one without an id is new. -/
def saveTask (c : Client) (net : Network) (task : Task) : Except Failure SaveResult :=
  match task.id with
  | none => c.createTask net task
  | some _ => c.updateTask net task

end Client

end TaskConsole
