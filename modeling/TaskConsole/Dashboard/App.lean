import TaskConsole.Console.Basic

/-!
# The dashboard's state — what is shown, and what is selected

* `App` — the tab, the tasks, the selection, the status line;
* `App.select`, `App.replaceTasks` — the selection stays on the list;
* `App.onEvent` — how an event of the console changes what is shown. -/

namespace TaskConsole

/-- The pages of the dashboard. -/
inductive Tab where
  | tasks
  | details
  deriving DecidableEq, Repr

/-- The other page. -/
def Tab.next : Tab → Tab
  | tasks => details
  | details => tasks

/-- A line that tells the operator what happened last. -/
structure StatusLine where
  text : String
  isError : Bool
  deriving DecidableEq, Repr

/-- What the dashboard shows. -/
structure App where
  tab : Tab := .tasks
  tasks : List Task := []
  selected : Option Nat := none
  -- the index of the first task in view, when the list was last drawn
  offset : Nat := 0
  serviceUrl : Option String := none
  status : Option StatusLine := none
  -- the phase of the mark that shows that something is in flight
  spinner : Nat := 0
  deriving DecidableEq

namespace App

/-- Another page. -/
def nextTab (a : App) : App := { a with tab := a.tab.next }

/-- Another selection; without one, the list is shown from its start. -/
def select (a : App) : Option Nat → App
  | some i => { a with selected := some i }
  | none => { a with selected := none, offset := 0 }

/-- The selection moved by a number of tasks, no further than the ends of the list. -/
def selectOffset (a : App) (offset : Int) : App :=
  if a.tasks.isEmpty then a.select none
  else
    let last : Int := a.tasks.length - 1
    a.select (some (max 0 (min last ((a.selected.getD 0 : Nat) + offset))).toNat)

/-- The selected task. -/
def selectedTask? (a : App) : Option Task := a.selected.bind fun i => a.tasks[i]?

/-- Another list; the selection keeps its index if that is on it, and else goes to
the first task. -/
def replaceTasks (a : App) (tasks : List Task) : App :=
  let selection :=
    if tasks.isEmpty then none
    else match a.selected with
      | some i => if i < tasks.length then some i else some 0
      | none => some 0
  { a with tasks }.select selection

/-- Something went well. -/
def setStatus (a : App) (text : String) : App :=
  { a with status := some { text, isError := false } }

/-- Something went wrong. -/
def setError (a : App) (text : String) : App :=
  { a with status := some { text, isError := true } }

/-- A status that is old enough is taken away, unless something is in flight. -/
def clearStatus (a : App) (stale busy : Bool) : App :=
  if stale && !busy then { a with status := none } else a

/-- What an event of the console changes. -/
def onEvent (a : App) : ConsoleEvent → App
  | .tasksReplaced tasks => (a.replaceTasks tasks).setStatus "Refreshed."
  | .refreshFailed message => a.setError message
  | .operationFailed message => a.setError message
  | .error message => a.setError message
  | .runResult v => a.setStatus ((if v.success then "OK" else "ERR") ++ ": " ++ v.message)
  | .saveResult r =>
    if r.ok then a.setStatus ((if r.creating then "Created" else "Updated") ++ ": " ++ r.message)
    else a.setError r.message
  | .serviceUrlChanged url => { a with serviceUrl := some url }

end App

end TaskConsole
