/-!
# Failures — what can go wrong, and how it is said

* `Failure` — the causes that an operator is told about;
* `Failure.message` — the text shown for a cause;
* `Failure.category` — the part of the system that a cause belongs to. -/

namespace TaskConsole

/-- A cause for which an operation was refused or did not succeed. -/
inductive Failure where
  | noBackend
  -- the request or its reply was lost, or the scheduler answered with an error status
  | transport (text : String)
  | unexpectedResponse (text : String)
  -- the scheduler answered a list request with a message instead of a list
  | service (text : String)
  | missingId
  | bind (reason : String)
  deriving DecidableEq, Repr

/-- The parts of the system that failures come from. -/
inductive FailureCategory where
  | configurationAbsent
  | transport
  | protocol
  | precondition
  | discovery
  deriving DecidableEq, Repr

namespace Failure

/-- The reply has none of the shapes that the operation knows. -/
def unexpected : Failure := .unexpectedResponse "Unexpected response from service"

/-- The reply to a list request is no JSON at all. -/
def unparsableTaskList : Failure := .unexpectedResponse "Failed to parse task list"

/-- The text that the operator reads. -/
def message : Failure → String
  | noBackend => "No service discovered"
  | transport text => text
  | unexpectedResponse text => text
  | service text => text
  | missingId => "Task is missing an ID"
  | bind reason => "Failed to bind gossip socket: " ++ reason

/-- The part of the system that a failure belongs to. -/
def category : Failure → FailureCategory
  | noBackend => .configurationAbsent
  | transport _ => .transport
  | unexpectedResponse _ => .protocol
  | service _ => .protocol
  | missingId => .precondition
  | bind _ => .discovery

end Failure

end TaskConsole
