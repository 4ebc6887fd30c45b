import TaskConsole.Discovery.Listener
import TaskConsole.Time.Slices

/-!
# Datagrams read by slices — what a fault in a heartbeat would end

The heartbeat of an announcement is the one text of a datagram that is cut by slices.
A fault in it would end the reading of the datagram, of the batch that it came in,
and the listener with it.  The operations of the registry and of the listener are
given here with that outcome.

* `Announcement.decodeBySlices` — a datagram read;
* `Registry.observeBySlices`, `Registry.absorbBySlices`, `Registry.absorbAllBySlices` —
  a datagram, a batch, and one batch after the other;
* `Listener.receiveBySlices` — a batch that arrives at the socket. -/

namespace TaskConsole

open Json (Members)
open Text (SliceFault)

namespace Announcement

/-- The heartbeat in a description, if it is a text that names a moment. -/
def heartbeatBySlices (ms : Members) : Except SliceFault (Option Timestamp) :=
  match (Json.lookup "last_heartbeat" ms).bind Json.text? with
  | some s => Timestamp.readBySlices s
  | none => .ok none

/-- The announcement that a description makes. -/
def ofMembersBySlices (sender : Address) (now : Timestamp) (ms : Members) :
    Except SliceFault Announcement := do
  let heartbeat ← heartbeatBySlices ms
  return { ofMembers sender now ms with lastHeartbeat := heartbeat.getD now }

/-- The announcement in a datagram, if it is one. -/
def decodeBySlices (datagram : List UInt8) (sender : Address) (now : Timestamp) :
    Except SliceFault (Option Announcement) :=
  (serviceMembers? datagram).mapM (ofMembersBySlices sender now)

end Announcement

namespace Registry

/-- A datagram is recorded when it is an announcement. -/
def observeBySlices (r : Registry) (d : Datagram) : Except SliceFault Registry := do
  match ← Announcement.decodeBySlices d.bytes d.sender d.receivedAt with
  | some a => return r.record a
  | none => return r

/-- All datagrams of a batch are observed before the address is refreshed. -/
def absorbBySlices (r : Registry) (batch : List Datagram) :
    Except SliceFault (Registry × Option String) := do
  let r ← batch.foldlM observeBySlices r
  return r.refresh

/-- Batch after batch, with the addresses published on the way. -/
def absorbAllBySlices (r : Registry) :
    List (List Datagram) → Except SliceFault (Registry × List String)
  | [] => return (r, [])
  | batch :: rest => do
    let (r, published) ← r.absorbBySlices batch
    let (last, others) ← r.absorbAllBySlices rest
    return (last, published.toList ++ others)

end Registry

/-- A batch of datagrams that were waiting together arrives. -/
def Listener.receiveBySlices (l : Listener) (batch : List Datagram) :
    Except SliceFault (Listener × List DiscoveryEvent) :=
  match l.registry? with
  | some registry => do
    match ← registry.absorbBySlices batch with
    | (registry, none) => return ({ l with registry? := some registry }, [])
    | (registry, some url) =>
      return ({ l with registry? := some registry, board := l.board.publish url },
        [.serviceUrlChanged url])
  | none => .ok (l, [])

end TaskConsole
