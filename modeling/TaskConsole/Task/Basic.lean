import TaskConsole.Text.Blank
import TaskConsole.Time.Timestamp

/-!
# Scheduled tasks — the record and the rules for a complete one

* `Task` — a unit of work as the scheduler exposes it; the scheduler gives it its
  id, so one that was never saved has none;
* `TaskDefect` — what a task can lack, in the order in which it is reported;
* `Task.defect?` — the first thing that a task lacks. -/

namespace TaskConsole

/-- A unit of work that the scheduler runs. Without values given, it is a blank
task that is enabled. -/
structure Task where
  id : Option Int64 := none
  name : String := ""
  cronSchedule : String := ""
  actionName : String := ""
  actionFunction : String := ""
  actionConfiguration : String := ""
  -- the longest time that a run may take, in milliseconds
  timeout : Int64 := 0
  nextExecution : Option Timestamp := none
  enabled : Bool := true
  immediate : Bool := false
  blackoutStart : Option Timestamp := none
  blackoutEnd : Option Timestamp := none
  deriving DecidableEq

/-- What a task can lack. -/
inductive TaskDefect where
  | name
  | cron
  | actionName
  | actionFunction
  | actionConfiguration
  | timeout
  deriving DecidableEq, Repr

/-- How a defect is said. -/
def TaskDefect.message : TaskDefect → String
  | name => "Name is required"
  | cron => "Cron is required"
  | actionName => "Action name is required"
  | actionFunction => "Action function is required"
  | actionConfiguration => "Action configuration is required"
  | timeout => "Timeout must be > 0"

namespace Task

/-- A task has a defect when the text is blank, or the timeout not positive. -/
def lacks (t : Task) : TaskDefect → Bool
  | .name => Text.isBlankText t.name
  | .cron => Text.isBlankText t.cronSchedule
  | .actionName => Text.isBlankText t.actionName
  | .actionFunction => Text.isBlankText t.actionFunction
  | .actionConfiguration => Text.isBlankText t.actionConfiguration
  | .timeout => t.timeout ≤ 0

/-- The first defect of a task; a task without one may be saved. -/
def defect? (t : Task) : Option TaskDefect :=
  [.name, .cron, .actionName, .actionFunction, .actionConfiguration, .timeout].find? t.lacks

end Task

end TaskConsole
