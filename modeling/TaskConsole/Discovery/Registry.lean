import TaskConsole.Discovery.Announcement

/-!
# The registry — the schedulers that are known, and the one that is used

The registry keeps the last announcement of each scheduler.  The one in use is
that with the latest heartbeat; of equal ones, that with the smallest name.  Its
address is published when it differs from the one published before.

* `Registry` — the entries and the published address;
* `Registry.record`, `Registry.observe` — an announcement, or a datagram, comes in;
* `Registry.freshest?` — the scheduler in use;
* `Registry.refresh` — its address is published, if it changed;
* `Registry.absorb`, `Registry.absorbAll` — batches of datagrams, each followed by one
  refresh. -/

namespace TaskConsole

/-- A datagram, with where it came from and when. -/
structure Datagram where
  bytes : List UInt8
  sender : Address
  receivedAt : Timestamp

/-- The schedulers that are known. -/
structure Registry where
  -- announcements, each under a name, the latest arrival first
  services : List (String × Announcement) := []
  published : Option String := none
  -- a name has one entry
  distinct : (services.map (·.1)).Nodup := by decide

namespace Registry

/-- The registry before any announcement. -/
def empty : Registry := {}

/-- The announcement under a name. -/
def get? (r : Registry) (name : String) : Option Announcement :=
  (r.services.find? (·.1 = name)).map (·.2)

/-- The number of names. -/
def size (r : Registry) : Nat := r.services.length

/-- The announcements under all names. -/
def entries (r : Registry) : List Announcement := r.services.map (·.2)

/-- What stands under all names but one. -/
def without (r : Registry) (name : String) : List (String × Announcement) :=
  r.services.filter (·.1 ≠ name)

theorem nodup_cons_without (r : Registry) (name : String) (a : Announcement) :
    (((name, a) :: r.without name).map (·.1)).Nodup := by
  rw [List.map_cons, List.nodup_cons]
  refine ⟨?_, (r.distinct.sublist (List.filter_sublist.map _))⟩
  simp [without]

/-- An announcement takes the place of whatever stood under the name of its scheduler. -/
def record (r : Registry) (a : Announcement) : Registry :=
  { services := (a.serviceId, a) :: r.without a.serviceId
    published := r.published
    distinct := r.nodup_cons_without a.serviceId a }

/-- A datagram is recorded when it is an announcement; says whether it was. -/
def observe (r : Registry) (datagram : List UInt8) (sender : Address) (now : Timestamp) :
    Registry × Bool :=
  match Announcement.decode? datagram sender now with
  | some a => (r.record a, true)
  | none => (r, false)

/-- The fresher of two announcements; the second one if neither is. -/
def fresher (a b : Announcement) : Announcement := if a.beats b then a else b

/-- The scheduler in use. -/
def freshest? (r : Registry) : Option Announcement :=
  match r.entries with
  | [] => none
  | a :: rest => some (rest.foldl fresher a)

/-- The address of the scheduler in use becomes the published one; the result names
it when that is a change. -/
def refresh (r : Registry) : Registry × Option String :=
  match r.freshest? with
  | none => (r, none)
  | some a =>
    if r.published = some a.baseUrl then (r, none)
    else ({ r with published := some a.baseUrl }, some a.baseUrl)

theorem refresh_of_none {r : Registry} (h : r.freshest? = none) : r.refresh = (r, none) := by
  rw [refresh, h]

theorem refresh_of_same {r : Registry} {a : Announcement} (h : r.freshest? = some a)
    (hp : r.published = some a.baseUrl) : r.refresh = (r, none) := by
  rw [refresh, h]
  exact if_pos hp

theorem refresh_of_new {r : Registry} {a : Announcement} (h : r.freshest? = some a)
    (hp : r.published ≠ some a.baseUrl) :
    r.refresh = ({ r with published := some a.baseUrl }, some a.baseUrl) := by
  rw [refresh, h]
  exact if_neg hp

/-! ## Batches -/

/-- All datagrams of a batch, one after the other. -/
def observeAll (r : Registry) (batch : List Datagram) : Registry :=
  batch.foldl (fun r d => (r.observe d.bytes d.sender d.receivedAt).1) r

/-- A batch of datagrams that were waiting together: all are observed before the
address is refreshed. -/
def absorb (r : Registry) (batch : List Datagram) : Registry × Option String :=
  (r.observeAll batch).refresh

/-- Batch after batch, with the addresses published on the way. -/
def absorbAll (r : Registry) : List (List Datagram) → Registry × List String
  | [] => (r, [])
  | batch :: rest =>
    let (r, published) := r.absorb batch
    let (last, others) := r.absorbAll rest
    (last, published.toList ++ others)

end Registry

end TaskConsole
