import TaskConsole.Proofs.WireTime
import TaskConsole.Task.Codec

/-! # The task codec — a task that is written is read back

    The writer gives every member under a key of its own, so the reader finds each
    one that it looks for.  Texts and flags come back as they are, an absent value
    as one that is absent, a number of 64 bits is one that the reader takes as it is,
    and a timestamp loses what is below its milliseconds
    (`Timestamp.read?_wire`).  Nothing is lost a second time. -/

namespace TaskConsole

open Json (Members)

/-! ## Values -/

/-- A number of 64 bits is read as it is. -/
theorem int64?_ofInt (n : Int64) : (Json.ofInt n).int64? = some n := by
  have hrange : leastInt64 ≤ n.toInt ∧ n.toInt ≤ greatestInt64 :=
    ⟨n.le_toInt, Int.le_of_lt_add_one n.toInt_lt⟩
  rw [Json.ofInt, Json.int64?, Json.Number.int64?, Json.Number.signed?, if_pos hrange,
    Int64.ofInt_toInt]

/-- A number that may be absent is read back. -/
theorem int64?_ofOption (n : Option Int64) : Json.int64? (Json.ofOption .ofInt n) = n := by
  cases n with
  | none => rfl
  | some n => exact int64?_ofInt n

/-- A moment that may be absent is read back, to the millisecond. -/
theorem timestamp?_timeJson (t : Option Timestamp) :
    Json.timestamp? (Task.timeJson t) = t.map Timestamp.toMillis := by
  cases t with
  | none => rfl
  | some t =>
      rw [Task.timeJson, Json.ofOption, Json.timestamp?, Json.text?, Option.bind_some,
        t.read?_wire, Option.map_some]

theorem timeJson_toMillis (t : Option Timestamp) :
    Task.timeJson (t.map Timestamp.toMillis) = Task.timeJson t := by
  cases t with
  | none => rfl
  | some t => exact congrArg Json.string t.wire_toMillis

/-! ## Tasks -/

namespace Task

/-- A task with its moments cut to whole milliseconds. -/
def toMillis (t : Task) : Task :=
  { t with
    nextExecution := t.nextExecution.map Timestamp.toMillis
    blackoutStart := t.blackoutStart.map Timestamp.toMillis
    blackoutEnd := t.blackoutEnd.map Timestamp.toMillis }

/-- The members that are written are found, and read as what they were. -/
theorem ofMembers_members (t : Task) : ofMembers t.members = t.toMillis := by
  have hid : (Json.lookup "id" t.members).bind Json.int64? = t.id :=
    int64?_ofOption t.id
  have htimeout : (Json.lookup "timeout" t.members).bind Json.int64? = some t.timeout :=
    int64?_ofInt t.timeout
  have hnext : (Json.lookup "next_execution" t.members).bind Json.timestamp?
      = t.nextExecution.map Timestamp.toMillis := timestamp?_timeJson t.nextExecution
  have hstart : (Json.lookup "blackout_start" t.members).bind Json.timestamp?
      = t.blackoutStart.map Timestamp.toMillis := timestamp?_timeJson t.blackoutStart
  have hend : (Json.lookup "blackout_end" t.members).bind Json.timestamp?
      = t.blackoutEnd.map Timestamp.toMillis := timestamp?_timeJson t.blackoutEnd
  rw [ofMembers, hid, htimeout, hnext, hstart, hend]
  rfl

/-- What is lost when a task is written is lost once. -/
theorem toJson_toMillis (t : Task) : t.toMillis.toJson = t.toJson := by
  rw [toJson, members, toJson, members]
  show Json.object [_, _, _, _, _, _, _, (_, timeJson (t.nextExecution.map _)), _, _,
    (_, timeJson (t.blackoutStart.map _)), (_, timeJson (t.blackoutEnd.map _))] = _
  rw [timeJson_toMillis, timeJson_toMillis, timeJson_toMillis]
  rfl

/-- **The task codec round trip.** A task that is written is read back, its moments
    cut to whole milliseconds and all else unchanged; and for every object, to read
    it, to write the task and to read and write that again gives the same value. -/
theorem codec_round_trip :
    (∀ t : Task, ofJson? t.toJson = some t.toMillis)
      ∧ ∀ ms : Members, ∃ t, ofJson? (.object ms) = some t
        ∧ (ofJson? t.toJson).map toJson = some t.toJson := by
  have hread (t : Task) : ofJson? t.toJson = some t.toMillis :=
    congrArg some t.ofMembers_members
  refine ⟨hread, ?_⟩
  intro ms
  refine ⟨ofMembers ms, rfl, ?_⟩
  rw [hread, Option.map_some, toJson_toMillis]

end Task

end TaskConsole
