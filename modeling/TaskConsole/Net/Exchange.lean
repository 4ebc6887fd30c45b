import TaskConsole.Failure
import TaskConsole.Json.Basic
import TaskConsole.Net.Status
import TaskConsole.Net.Url

/-!
# Exchanges — a request, and what becomes of it

* `Request` — a method, a target and a JSON body;
* `Delivery` — the ways in which a request can end: without a reply, with one that
  is cut short, or with a complete one;
* `Network` — a delivery for every request. -/

namespace TaskConsole

/-- The methods that are used. -/
inductive Method where
  | get
  | post
  | patch
  deriving DecidableEq, Repr

/-- The name of a method. -/
def Method.text : Method → String
  | get => "GET"
  | post => "POST"
  | patch => "PATCH"

/-- A request to a scheduler. -/
structure Request where
  method : Method
  url : Url
  declaresJson : Bool
  body : Option Json

/-- What becomes of a request. -/
inductive Delivery where
  | closed
  -- the reply ends before its announced length
  | truncated
  | complete (status : Nat) (body : List UInt8)

/-- A complete reply, of which some statuses lose the body on the way. -/
def Delivery.reply (status : Nat) (body : List UInt8) : Delivery :=
  .complete status (if Status.sendsBody status then body else [])

/-- The delivery of every request. -/
abbrev Network := Request → Delivery

end TaskConsole
