import TaskConsole.Discovery.Registry
import TaskConsole.Failure

/-!
# The listener — from a socket for announcements to published addresses

A listener starts unbound.  Its one attempt to open a socket either makes it
listen or leaves it inert for good.  While it listens it keeps a registry, and
every change of the address in use is published twice: as an event, and on a
board that always shows the last one.

* `Board`, `Subscriber` — the value on display, and one who looks at it now and then;
* `Listener.start` — the socket is opened, or could not be;
* `Listener.receive` — a batch of datagrams arrives;
* `bindHost` — the address meant by the text of a setting. -/

namespace TaskConsole

/-- What a listener reports. -/
inductive DiscoveryEvent where
  | serviceUrlChanged (url : String)
  | error (message : String)
  deriving DecidableEq, Repr

/-! ## The board -/

/-- A value on display. -/
structure Board where
  -- the value, absent before the first publication
  value : Option String := none
  version : Nat := 0
  deriving DecidableEq

/-- A new value is put up. -/
def Board.publish (b : Board) (url : String) : Board :=
  { value := some url, version := b.version + 1 }

/-- One who looks at the board now and then. -/
structure Subscriber where
  -- the publications that were made when the subscriber last looked
  seen : Nat := 0

namespace Subscriber

/-- There was a publication since the subscriber last looked. -/
def hasUnseen (s : Subscriber) (b : Board) : Bool := s.seen != b.version

/-- The subscriber looks. -/
def look (_ : Subscriber) (b : Board) : Subscriber := { seen := b.version }

end Subscriber

/-! ## The listener -/

/-- Where a listener stands. -/
inductive ListenerState where
  | unbound
  | listening
  | failed
  deriving DecidableEq, Repr

/-- A listener for announcements. -/
structure Listener where
  state : ListenerState := .unbound
  board : Board := {}
  -- the right to publish on the board, which is handed over once, is still held
  holdsPublisher : Bool := true
  localAddress? : Option Address := none
  -- the registry behind the open socket, once someone may publish from it
  registry? : Option Registry := none

/-- The address meant by a text: one that is no address means the host itself. -/
def bindHost (text : String) : Address := (Address.read? (Text.trim text)).getD .loopback

namespace Listener

/-- The address of the scheduler in use. -/
def currentUrl? (l : Listener) : Option String := l.board.value

/-- The right to publish is handed over, to be used with a registry of its own. -/
def listen (l : Listener) : Listener :=
  { l with state := .listening, holdsPublisher := false, registry? := some .empty }

/-- The socket is opened, or the reason why not is given. Only the first attempt
counts; a failure is the result and is reported as an event too. -/
def start (l : Listener) (socket : Except String Address) :
    Listener × Except Failure Unit × List DiscoveryEvent :=
  match l.state with
  | .unbound =>
    match socket with
    | .ok host =>
      let bound := { l with localAddress? := some host }
      (if l.holdsPublisher then bound.listen else bound, .ok (), [])
    | .error reason =>
      let failure := Failure.bind reason
      ({ l with state := .failed }, .error failure, [.error failure.message])
  | _ => (l, .ok (), [])

/-- A batch of datagrams that were waiting together arrives; without a registry,
nobody takes notice. -/
def receive (l : Listener) (batch : List Datagram) : Listener × List DiscoveryEvent :=
  match l.registry? with
  | some registry =>
    match registry.absorb batch with
    | (registry, none) => ({ l with registry? := some registry }, [])
    | (registry, some url) =>
      ({ l with registry? := some registry, board := l.board.publish url },
       [.serviceUrlChanged url])
  | none => (l, [])

end Listener

end TaskConsole
