import TaskConsole.Json.Field
import TaskConsole.Json.Parser
import TaskConsole.Net.Address

/-!
# Service announcements — what a scheduler says about itself

A scheduler sends datagrams that name its id, its address and the time of its
heartbeat.  A datagram is an announcement when it is a JSON object of the type
`web_service` with an object as its `service`; within that, whatever is missing
or unusable has a default, so that no field can spoil the rest.

* `Announcement` — a scheduler at an endpoint, with its heartbeat;
* `Announcement.baseUrl` — the address under which its paths lie;
* `Announcement.decode?` — a datagram read. -/

namespace TaskConsole

open Json (Members)

/-- A scheduler at an endpoint. -/
structure Announcement where
  serviceId : String
  address : String
  port : UInt16
  basePath : Option String
  lastHeartbeat : Timestamp
  deriving DecidableEq

namespace Announcement

/-- A text with a slash at its end. -/
def withSlash (cs : List Char) : List Char :=
  if cs.getLast? = some '/' then cs else cs ++ ['/']

/-- A path with a slash in front; a blank one is none. -/
def pathText (path : Option String) : List Char :=
  match path.bind Text.trimmed? with
  | none => []
  | some p => if p.toList.head? = some '/' then p.toList else '/' :: p.toList

/-- The characters of the base URL. -/
def baseUrlText (a : Announcement) : List Char :=
  withSlash ("http://".toList ++ a.address.toList ++ ':' :: Text.decimal a.port.toNat
    ++ pathText a.basePath)

/-- The address under which the scheduler's paths lie; it ends with a slash. -/
def baseUrl (a : Announcement) : String := String.ofList a.baseUrlText

/-- The type of the datagrams that announce a scheduler. -/
def announcedType : String := "web_service"

/-- A member as a text, trimmed; a blank one is absent. -/
def textMember (key : String) (ms : Members) : Option String :=
  ((Json.lookup key ms).bind Json.text?).bind Text.trimmed?

/-- The description of the scheduler in a datagram that is an announcement. -/
def serviceMembers? (datagram : List UInt8) : Option Members := do
  let root ← (← Json.parse? datagram).members?
  guard ((Json.lookup "type" root).bind Json.text? = some announcedType)
  (← Json.lookup "service" root).members?

/-- The announcement that a description makes. A scheduler without a name is known
by its endpoint, one without an address by that of the sender. -/
def ofMembers (sender : Address) (now : Timestamp) (ms : Members) : Announcement :=
  let address := (textMember "address" ms).getD sender.text
  let port := ((Json.lookup "port" ms).bind Json.port?).getD 0
  { serviceId := (textMember "service_id" ms).getD (address ++ ":" ++ Text.showNat port.toNat)
    address
    port
    basePath := textMember "base_path" ms
    lastHeartbeat := ((Json.lookup "last_heartbeat" ms).bind Json.timestamp?).getD now }

/-- The announcement in a datagram, if it is one. -/
def decode? (datagram : List UInt8) (sender : Address) (now : Timestamp) :
    Option Announcement :=
  (serviceMembers? datagram).map (ofMembers sender now)

/-- One announcement is fresher than another when its heartbeat is later, or as late
and its name smaller. -/
def beats (a b : Announcement) : Bool :=
  b.lastHeartbeat.before a.lastHeartbeat
    || (!a.lastHeartbeat.before b.lastHeartbeat && decide (a.serviceId < b.serviceId))

end Announcement

end TaskConsole
