import TaskConsole.Json.Field
import TaskConsole.Task.Basic
import TaskConsole.Time.Writer

/-!
# Tasks in JSON — a tolerant reader and a complete writer

Reading an object never fails: a member that is missing or unusable gives the
value that its field has in a blank task.  Writing gives every field, an absent
one as `null`.

* `Task.ofMembers`, `Task.ofJson?` — an object as a task;
* `Task.toJson` — a task as an object. -/

namespace TaskConsole

open Json (Members)

namespace Task

/-- The task that an object describes. -/
def ofMembers (ms : Members) : Task where
  id := (Json.lookup "id" ms).bind Json.int64?
  name := ((Json.lookup "name" ms).bind Json.text?).getD ""
  cronSchedule := ((Json.lookup "cron_schedule" ms).bind Json.text?).getD ""
  actionName := ((Json.lookup "action_name" ms).bind Json.text?).getD ""
  actionFunction := ((Json.lookup "action_function" ms).bind Json.text?).getD ""
  actionConfiguration := ((Json.lookup "action_configuration" ms).bind Json.text?).getD ""
  timeout := ((Json.lookup "timeout" ms).bind Json.int64?).getD 0
  nextExecution := (Json.lookup "next_execution" ms).bind Json.timestamp?
  enabled := ((Json.lookup "enabled" ms).bind Json.flag?).getD true
  immediate := ((Json.lookup "immediate" ms).bind Json.flag?).getD false
  blackoutStart := (Json.lookup "blackout_start" ms).bind Json.timestamp?
  blackoutEnd := (Json.lookup "blackout_end" ms).bind Json.timestamp?

/-- The task that a value describes; only objects describe one. -/
def ofJson? (v : Json) : Option Task := v.members?.map ofMembers

/-- A moment that may be absent, as a value. -/
def timeJson (t : Option Timestamp) : Json := Json.ofOption (fun t => .string t.wire) t

/-- The members that describe a task, none of them left out. -/
def members (t : Task) : Members :=
  [("id", Json.ofOption .ofInt t.id),
   ("name", .string t.name),
   ("cron_schedule", .string t.cronSchedule),
   ("action_name", .string t.actionName),
   ("action_function", .string t.actionFunction),
   ("action_configuration", .string t.actionConfiguration),
   ("timeout", .ofInt t.timeout),
   ("next_execution", timeJson t.nextExecution),
   ("enabled", .bool t.enabled),
   ("immediate", .bool t.immediate),
   ("blackout_start", timeJson t.blackoutStart),
   ("blackout_end", timeJson t.blackoutEnd)]

/-- The object that describes a task. -/
def toJson (t : Task) : Json := .object t.members

end Task

end TaskConsole
