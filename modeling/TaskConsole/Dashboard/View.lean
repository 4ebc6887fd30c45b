import TaskConsole.Binary64
import TaskConsole.Dashboard.App
import TaskConsole.Dashboard.Screen

/-!
# The view — the dashboard drawn on a screen

Within a margin of one cell stand three frames: the pages, the page that is open,
and the status line.  The list of tasks shows a window that moves just enough to
keep the selected task in view, and remembers where it begins.

* `Window`, `Window.around` — the rows of the list in view;
* `taskRow`, `detailRows` — what the two pages show;
* `App.view` — the whole screen, and the state with the window remembered. -/

namespace TaskConsole

/-- The size of a screen, in cells. -/
structure Size where
  width : Nat
  height : Nat
  deriving DecidableEq

/-- The greatest number of cells of a screen. -/
def Size.maxCells : Nat := 65535

/-- The part of a screen that is drawn on: all of it, or when it has too many cells, a part
of the same shape up to rounding. -/
def Size.drawn (s : Size) : Size :=
  if s.width * s.height ≤ maxCells then s
  else
    let shape := Binary64.ofRatio s.width s.height
    let height := ((Binary64.ofRatio maxCells 1).quotient shape).root
    { width := (height.product shape).floorMagnitude, height := height.floorMagnitude }

/-! ## The list of tasks -/

/-- A part of a list, from a first index up to the one before the last. -/
structure Window where
  first : Nat
  -- the index after the last one in view
  stop : Nat
  deriving DecidableEq

/-- The window moved down just enough to hold an index. -/
def Window.downTo (w : Window) (height index : Nat) : Window :=
  if w.stop ≤ index then ⟨index + 1 - height, index + 1⟩ else w

/-- The window moved up just enough to begin with an index that lies before it. -/
def Window.upTo (w : Window) (height index : Nat) : Window :=
  if index < w.first then ⟨index, min w.stop (index + height)⟩ else w

/-- The window of a height that begins at an offset, moved just enough to hold an
index of a list of a length. -/
def Window.around (length offset height index : Nat) : Window :=
  let first := min offset (length - 1)
  let w : Window := ⟨first, min (first + height) length⟩
  (w.downTo height index).upTo height index

/-! ### Columns -/

/-- What each column asks for, in hundredths of the width. -/
def columnShares : List Nat := [30, 20, 25, 10, 15]

/-- A share of a width in cells, rounded to binary floating point; hundredths of cells are
counted in 16 bits. -/
def shareOf (width share : Nat) : Binary64 := .ofRatio (share * width % 65536) 100

/-- What the columns and the blanks between them ask for, in cells. -/
def columnDemands (width : Nat) : List Nat → List Binary64
  | [] => []
  | [share] => [shareOf width share]
  | share :: rest => shareOf width share :: .ofRatio 1 1 :: columnDemands width rest

/-- What each demand gets while there is room: all of it, or the rest.  The room that is
left is rounded after every step. -/
def grants (room : Binary64) : List Binary64 → List Binary64
  | [] => []
  | demand :: rest =>
    let grant := if demand.magnitudeLe room then demand else room
    grant :: grants (room.minus grant) rest

/-- Every second element, the first one included. -/
def everySecond {α : Type} : List α → List α
  | a :: _ :: rest => a :: everySecond rest
  | rest => rest

/-- The widths of the five columns in a row of some width.  Marks before the rows are
served first; the last columns are the first to get less than they ask for. -/
def columnWidths (width : Nat) (marked : Bool) : List Nat :=
  let demands := columnDemands width columnShares
  let room := Binary64.ofRatio width 1
  let granted :=
    if marked then (grants room (.ofRatio 2 1 :: demands)).tail else grants room demands
  (everySecond granted).map Binary64.floorMagnitude

/-- The mark before the selected row. -/
def rowMark : String := "> "

/-- Texts in columns, each cut to its width, one blank between them. -/
def columnCells (style : Style) : List (Nat × String) → Line
  | [] => []
  | (width, text) :: rest =>
    Line.padded style width (Line.ofText style width (Text.firstLine text))
      ++ .symbol " " style :: columnCells style rest

/-- A row of the list in one style: its mark, if rows have one, and its texts. -/
def rowCells (style : Style) (width : Nat) (mark : Option String) (texts : List String) :
    Line :=
  let cells := columnCells style ((columnWidths width mark.isSome).zip texts)
  Line.padded style width ((Line.ofText style width (mark.getD "") ++ cells).take width)

/-- The titles of the columns. -/
def columnTitles : List String := ["Name", "Cron", "Next Run", "Enabled", "Timeout"]

/-- A timeout as it is shown. -/
def timeoutText (t : Task) : String := Text.showInt t.timeout.toInt ++ " ms"

/-- What the list shows of a task. -/
def taskTexts (t : Task) : List String :=
  [t.name, t.cronSchedule, displayTime t.nextExecution, if t.enabled then "Yes" else "No",
   timeoutText t]

/-- A task as a row: grey when it is disabled, on blue when it is selected. -/
def taskRow (width : Nat) (mark : Option String) (isSelected : Bool) (t : Task) : Line :=
  let style : Style := { foreground := if t.enabled then .reset else .darkGray }
  let row := rowCells style width mark (taskTexts t)
  if isSelected then row.restyle { background := .blue } else row

/-- The mark of a row: none when nothing is selected, else that of the selected row or
a blank one. -/
def markOf (selected : Option Nat) (index : Nat) : Option String :=
  selected.map fun i => if i = index then rowMark else "  "

/-- The rows of the list from an index on. -/
def taskRows (width : Nat) (selected : Option Nat) : Nat → List Task → List Line
  | _, [] => []
  | index, t :: rest =>
    taskRow width (markOf selected index) (selected == some index) t
      :: taskRows width selected (index + 1) rest

/-- The row of titles. -/
def titleRow (width : Nat) (selected : Option Nat) : Line :=
  rowCells { foreground := .yellow, bold := true } width (selected.map fun _ => "  ")
    columnTitles

/-- The window of the list in so many rows. -/
def App.window (a : App) (height : Nat) : Window :=
  Window.around a.tasks.length a.offset height (min (a.selected.getD 0) (a.tasks.length - 1))

/-- The page of tasks, below its frame, and the window that it shows. -/
def App.taskPage (a : App) (width height : Nat) : App × List Line :=
  if a.tasks.isEmpty then (a, [titleRow width a.selected])
  else
    let w := a.window (height - 1)
    ({ a with offset := w.first },
     titleRow width a.selected
       :: taskRows width a.selected w.first ((a.tasks.drop w.first).take (w.stop - w.first)))

/-! ## The details of a task -/

/-- A label and a value; the label is bold and takes 22 columns. -/
def detailRow (width : Nat) (label value : String) : Line :=
  let filled := String.ofList (label.toList ++ List.replicate (22 - label.length) ' ')
  Line.ofSpans width [{ text := filled, style := { bold := true } }, { text := value }]

/-- A flag as it is shown. -/
def flagText (b : Bool) : String := if b then "true" else "false"

/-- The fields of a task, one a row. -/
def detailRows (width : Nat) (t : Task) : List Line :=
  [detailRow width "ID" ((t.id.map fun n => Text.showInt n.toInt).getD "-"),
   detailRow width "Name" t.name,
   detailRow width "Cron" t.cronSchedule,
   detailRow width "Action" t.actionName,
   detailRow width "Function" t.actionFunction,
   detailRow width "Configuration" t.actionConfiguration,
   detailRow width "Timeout" (timeoutText t),
   detailRow width "Next Run" (displayTime t.nextExecution),
   detailRow width "Enabled" (flagText t.enabled),
   detailRow width "Immediate" (flagText t.immediate),
   detailRow width "Blackout Start" (displayTime t.blackoutStart),
   detailRow width "Blackout End" (displayTime t.blackoutEnd)]

/-- The page of details, below its frame. -/
def App.detailPage (a : App) (width : Nat) : List Line :=
  match a.selectedTask? with
  | some t => detailRows width t
  | none => [Line.ofSpans width [{ text := "No task selected" }]]

/-! ## Header and footer -/

/-- The style of a page's title. -/
def tabStyle (isOpen : Bool) : Style :=
  if isOpen then { foreground := .cyan, bold := true } else { foreground := .yellow }

/-- The titles of the pages. -/
def App.tabRow (a : App) (width : Nat) : Line :=
  Line.ofSpans width
    [{ text := " " }, { text := "Tasks", style := tabStyle (a.tab = .tasks) },
     { text := " │ " }, { text := "Details", style := tabStyle (a.tab = .details) }]

/-- The phases of the mark that shows that something is in flight. -/
def spinnerFrames : List String := ["|", "/", "-", "\\"]

/-- The status as a span. -/
def App.statusSpan (a : App) : Span :=
  match a.status with
  | some s => { text := s.text, style := { foreground := if s.isError then .red else .green } }
  | none => { text := "Ready." }

/-- The status line. -/
def App.statusRow (a : App) (width : Nat) (busy : Bool) : Line :=
  let mark := if busy then [{ text := spinnerFrames.getD (a.spinner % 4) "" ++ " " }] else []
  Line.ofSpans width (mark ++ [a.statusSpan])

/-- The title of the header. -/
def App.headerTitle (a : App) : String :=
  "Command Center | Service: " ++ a.serviceUrl.getD "not discovered"

/-- The title of the footer: the keys. -/
def keyHelp : String :=
  "r: Refresh | Enter/x: Run | e: Toggle | d: Duplicate | ←/→: Tabs | q: Quit"

/-! ## The screen -/

/-- The open page in a frame of a size; a page without room is not drawn. -/
def App.page (a : App) (width height : Nat) : App × List Line :=
  if width = 0 ∨ height = 0 then (a, List.replicate height [])
  else match a.tab with
  | .tasks =>
    let (next, rows) := a.taskPage (width - 2) (height - 2)
    (next, boxed ("Scheduled Tasks (" ++ Text.showNat a.tasks.length ++ ")") width height rows)
  | .details => (a, boxed "Task Details" width height (a.detailPage (width - 2)))

/-- The heights of the header, the page and the footer in so many rows: the header is
served first, and the page gets what both leave. -/
def paneHeights (height : Nat) : Nat × Nat × Nat :=
  let header := min 3 height
  let footer := min 3 (height - header)
  (header, height - header - footer, footer)

/-- A row within the margins. -/
def margined (row : Line) : Line := .blank :: row ++ [.blank]

/-- The screen of a size that has not too many cells, and the state after it is drawn. -/
def App.viewWithin (a : App) (size : Size) (busy : Bool) : App × Screen :=
  let edge := List.replicate size.width Cell.blank
  if size.width < 2 ∨ size.height < 2 then (a, List.replicate size.height edge)
  else
    let width := size.width - 2
    let (header, body, footer) := paneHeights (size.height - 2)
    let (next, page) := a.page width body
    let rows :=
      boxed a.headerTitle width header [a.tabRow (width - 2)]
        ++ page
        ++ boxed keyHelp width footer [a.statusRow (width - 2) busy]
    (next, edge :: rows.map margined ++ [edge])

/-- The screen of a size, and the state after it is drawn. -/
def App.view (a : App) (size : Size) (busy : Bool) : App × Screen :=
  a.viewWithin size.drawn busy

end TaskConsole
