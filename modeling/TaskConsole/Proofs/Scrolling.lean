import TaskConsole.Proofs.ListRows
import TaskConsole.Proofs.Selection

/-! # Scrolling — the selected task is in view, however the screen changes

    The list is seen through a window that begins at an offset, and the offset is kept from
    one screen to the next.  Screens grow and shrink, lists come and go and the selection
    jumps, so the offset that is kept says little about the next window:

    * whatever it is, a window with room for a row holds the selected task
      (`Window.holds_around`), and it was moved no further than needed for that;
    * what is within the frame of the page are the rows of that window, and blanks below them
      (`Size.page_view`), so the selected task is among them (`App.Selects.showsRun`), and no
      other row looks like its row (`App.ShowsRun.showsSelected`);
    * drawing changes the offset and nothing else (`App.alike_view`), and nothing else that is
      done depends on it (`App.Alike.step`), so every answer is the same without the screens
      (`App.Alike.answers_filter`). -/

namespace TaskConsole

/-! ## The window -/

namespace Window

/-- **THE WINDOW** holds the index, shows as much as there is room for, and was moved no
    further than any other window that holds it. -/
theorem holds_around {length height index : Nat} (offset : Nat) (hheight : 0 < height)
    (hindex : index < length) :
    let w := around length offset height index
    w.first ≤ index ∧ index < w.stop ∧ w.stop = min (w.first + height) length
      ∧ ∀ first, first ≤ index → index < first + height →
        ((w.first : Int) - min offset (length - 1)).natAbs
          ≤ ((first : Int) - min offset (length - 1)).natAbs := by
  simp only [around, downTo, upTo]
  -- the index lies below the window, above it or in it
  split <;> split <;> dsimp only at * <;>
    exact ⟨by omega, by omega, by omega, fun first hfirst hlast => by omega⟩

end Window

/-! ## The frame of the page -/

/-- The room within the frame of the page, on a screen of a size: the margins, the header and
    the footer take ten rows of it, and with the margins and the frame four columns. -/
def Size.room (s : Size) : Size := ⟨s.drawn.width - 4, s.drawn.height - 10⟩

/-- What stands within the frame of the page, on a screen of a size. -/
def Size.page (s : Size) (screen : Screen) : List Line :=
  ((screen.drop 5).take s.room.height).map fun line => (line.drop 2).take s.room.width

/-- A row of so many blanks. -/
def blankLine (width : Nat) : Line := List.replicate width (plainCell ' ')

/-- A row within the frame is followed by blanks up to the right border. -/
theorem framed_row {width : Nat} {row : Line} (h : row.length ≤ width) :
    ((margined (barredWith '│' ' ' '│' (width + 2) row)).drop 2).take width
      = row ++ blankLine (width - row.length) := by
  show ((row ++ (blankLine width ++ [plainCell '│']).drop row.length) ++ [Cell.blank]).take width
    = _
  rw [List.drop_append_of_le_length (by rw [blankLine, List.length_replicate]; exact h),
    ← List.append_assoc, List.append_assoc, blankLine, List.drop_replicate, List.take_left']
  · rfl
  · rw [List.length_append, List.length_replicate]
    omega

theorem paneHeights_eq (n : Nat) : paneHeights (n + 8) = (3, n + 2, 3) := by
  simp only [paneHeights, Prod.mk.injEq]
  omega

/-- The rows of the page within their frame. -/
theorem boxed_page (title : String) (width n : Nat) (rows : List Line) :
    boxed title width (n + 2) rows
      = barredWith '┌' '─' '┐' width (Line.ofText .plain (width - 2) title)
        :: (rows.take n ++ List.replicate (n - rows.length) []).map
          (barredWith '│' ' ' '│' width) ++ [barred '└' '─' '┘' width] := rfl

/-- **A SCREEN** with room for the page of tasks is three rows of header, the page in its
    frame, and three rows of footer, within the margins. -/
theorem App.viewWithin_tasks {a : App} (htab : a.tab = .tasks) (w n : Nat) (busy : Bool) :
    ∃ above header below, header.length = 3
      ∧ a.viewWithin ⟨w + 4, n + 10⟩ busy = ((a.taskPage w n).1,
        above :: (header ++ boxed ("Scheduled Tasks (" ++ Text.showNat a.tasks.length ++ ")")
          (w + 2) (n + 2) (a.taskPage w n).2).map margined ++ below) := by
  have hpanes : paneHeights (n + 10 - 2) = (3, n + 2, 3) := paneHeights_eq n
  have hpage : a.page (w + 4 - 2) (n + 2) = ((a.taskPage w n).1,
      boxed ("Scheduled Tasks (" ++ Text.showNat a.tasks.length ++ ")") (w + 2) (n + 2)
        (a.taskPage w n).2) := by
    rw [page, if_neg (by omega), htab]
    rfl
  rw [viewWithin, if_neg (by dsimp only; omega)]
  dsimp only
  rw [hpanes]
  dsimp only
  rw [hpage]
  refine ⟨List.replicate (w + 4) .blank, boxed a.headerTitle (w + 2) 3 [a.tabRow w],
    (boxed keyHelp (w + 2) 3 [a.statusRow w busy]).map margined
      ++ [List.replicate (w + 4) .blank], rfl, ?_⟩
  rw [List.map_append]
  simp only [List.map_append, List.append_assoc, List.cons_append]
  rfl

/-- **WITHIN THE FRAME**, which is below five other rows, stand the rows that it was drawn
    around, each filled up with blanks. -/
theorem Size.page_framed {size : Size} {above top bottom : Line} {header contents below : List Line}
    (hheader : header.length = 3) (hcontents : contents.length = size.room.height)
    (hlengths : ∀ row ∈ contents, row.length ≤ size.room.width) :
    size.page (above :: (header ++ (top
        :: contents.map (barredWith '│' ' ' '│' (size.room.width + 2)) ++ [bottom])).map margined
        ++ below)
      = contents.map fun row => row ++ blankLine (size.room.width - row.length) := by
  have hframed (row : Line) (hrow : row ∈ contents) :
      ((margined (barredWith '│' ' ' '│' (size.room.width + 2) row)).drop 2).take size.room.width
        = row ++ blankLine (size.room.width - row.length) := framed_row (hlengths row hrow)
  have hsplit : above :: (header ++ (top
        :: contents.map (barredWith '│' ' ' '│' (size.room.width + 2)) ++ [bottom])).map margined
        ++ below
      = (above :: (header.map margined ++ [margined top]))
        ++ (contents.map (fun row => margined (barredWith '│' ' ' '│' (size.room.width + 2) row))
          ++ (margined bottom :: below)) := by
    simp only [List.map_append, List.map_cons, List.map_map, List.map_nil, List.cons_append,
      List.append_assoc, List.nil_append, Function.comp_def]
  have hfive : (above :: (header.map margined ++ [margined top])).length = 5 := by
    rw [List.length_cons, List.length_append, List.length_map, hheader]
    rfl
  rw [page, hsplit, List.drop_left' hfive, List.take_left' (by rw [List.length_map, hcontents]),
    List.map_map]
  exact List.map_congr_left hframed

/-- **WITHIN THE FRAME** stand the rows of the page, and blanks below them. -/
theorem Size.page_view {a : App} (htab : a.tab = .tasks) {size : Size}
    (hwidth : 1 ≤ size.room.width) (hheight : 1 ≤ size.room.height) (busy : Bool)
    {next : App} {rows : List Line}
    (hpage : a.taskPage size.room.width size.room.height = (next, rows))
    (hrows : ∀ row ∈ rows, row.length = size.room.width)
    (hlength : rows.length ≤ size.room.height) :
    (a.view size busy).1 = next
      ∧ size.page (a.view size busy).2
        = rows ++ List.replicate (size.room.height - rows.length) (blankLine size.room.width) := by
  have hdrawn : size.drawn = ⟨size.room.width + 4, size.room.height + 10⟩ := by
    rw [room] at hwidth hheight ⊢
    generalize size.drawn = drawn at hwidth hheight ⊢
    rw [Nat.sub_add_cancel (by dsimp only at hwidth; omega),
      Nat.sub_add_cancel (by dsimp only at hheight; omega)]
  obtain ⟨above, header, below, hheader, hview⟩ :=
    a.viewWithin_tasks htab size.room.width size.room.height busy
  rw [hpage] at hview
  rw [App.view, hdrawn, hview]
  refine ⟨rfl, ?_⟩
  -- the page is filled up with empty rows, and each row with blanks
  have hfilled : (rows ++ List.replicate (size.room.height - rows.length) []).length
      = size.room.height := by
    rw [List.length_append, List.length_replicate]
    omega
  have hempty (row : Line) (h : row ∈ rows
      ++ List.replicate (size.room.height - rows.length) []) : row ∈ rows ∨ row = [] :=
    (List.mem_append.mp h).imp_right List.eq_of_mem_replicate
  rw [boxed_page, List.take_of_length_le hlength, size.page_framed hheader hfilled,
    List.map_append, List.map_replicate]
  · congr 1
    refine (List.map_congr_left fun row hrow => ?_).trans (List.map_id rows)
    rw [hrows row hrow, Nat.sub_self]
    exact List.append_nil row
  · intro row hrow
    rcases hempty row hrow with hmem | rfl
    · exact (hrows row hmem).le
    · exact Nat.zero_le _

/-! ## The page of tasks -/

/-- Blanks are drawn on the background of the terminal, without a mark. -/
theorem isOn_blankLine {width : Nat} (hwidth : 2 ≤ width) :
    (blankLine width).IsOn .reset ∧ ¬ (blankLine width).IsMarked := by
  obtain ⟨room, rfl⟩ := Nat.exists_eq_add_of_le' hwidth
  refine ⟨⟨⟨_, _, List.mem_cons_self⟩, fun text style hmem => ?_⟩, fun h => ?_⟩
  · cases List.eq_of_mem_replicate hmem
    rfl
  · exact absurd (Option.some.inj (List.cons.inj h).1) (by decide)

namespace App

variable {a : App}

/-- **A RUN OF THE LIST** stands on rows below the titles: so many tasks in their order, from
    the offset that is kept on, as many as there are or as there is room for, and one of them
    is the selected one. -/
structure ShowsRun (a : App) (room : Size) (rows : List Line) (index shown : Nat) : Prop where
  selected : a.selected = some index
  first : a.offset ≤ index
  last : index < a.offset + shown
  fills : shown = min (room.height - 1) (a.tasks.length - a.offset)
  height : rows.length = room.height
  width : ∀ row ∈ rows, row.length = room.width
  titles : rows[0]? = some (titleRow room.width (some index))
  tasks : ∀ k < shown, ∃ t, a.tasks[a.offset + k]? = some t ∧ rows[k + 1]? = some
    (taskRow room.width (markOf (some index) (a.offset + k))
      (some index == some (a.offset + k)) t)
  below : ∀ k, shown < k → k < room.height → rows[k]? = some (blankLine room.width)

/-- **THE ROW OF THE SELECTED TASK** has the mark in its first two columns and the background
    of the selection, and it is the only one that has either. -/
structure ShowsSelected (a : App) (room : Size) (rows : List Line) (index shown : Nat) : Prop
    extends ShowsRun a room rows index shown where
  marked : ∀ k (row : Line), rows[k]? = some row → (row.IsMarked ↔ k = index - a.offset + 1)
  highlighted : ∀ k (row : Line), rows[k]? = some row →
    (row.IsOn .blue ↔ k = index - a.offset + 1)
  plain : ∀ k (row : Line), rows[k]? = some row → k ≠ index - a.offset + 1 → row.IsOn .reset

/-- A row of the page is that of the titles, that of a task or blank. -/
theorem ShowsRun.row_cases {room : Size} {rows : List Line} {index shown : Nat}
    (h : a.ShowsRun room rows index shown) {k : Nat} {row : Line} (hrow : rows[k]? = some row) :
    (k = 0 ∧ row = titleRow room.width (some index))
      ∨ (∃ j < shown, ∃ t, k = j + 1 ∧ row = taskRow room.width
          (markOf (some index) (a.offset + j)) (some index == some (a.offset + j)) t)
      ∨ (shown < k ∧ row = blankLine room.width) := by
  have hk : k < room.height := h.height ▸ (List.getElem?_eq_some_iff.mp hrow).1
  rcases Nat.lt_or_ge shown k with hbelow | habove
  · exact .inr (.inr ⟨hbelow, Option.some.inj (hrow.symm.trans (h.below k hbelow hk))⟩)
  · cases k with
    | zero => exact .inl ⟨rfl, Option.some.inj (hrow.symm.trans h.titles)⟩
    | succ j =>
        obtain ⟨t, -, ht⟩ := h.tasks j habove
        exact .inr (.inl ⟨j, habove, t, rfl, Option.some.inj (hrow.symm.trans ht)⟩)

/-- The mark and the background of a row tell whether it is that of the selected task. -/
theorem ShowsRun.row_seen {room : Size} {rows : List Line} {index shown : Nat}
    (h : a.ShowsRun room rows index shown) (hwidth : 2 ≤ room.width) {k : Nat} {row : Line}
    (hrow : rows[k]? = some row) : row.IsOn (if k = index - a.offset + 1 then .blue else .reset)
      ∧ (row.IsMarked ↔ k = index - a.offset + 1) := by
  have hfirst := h.first
  have hlast := h.last
  have hplain (hne : k ≠ index - a.offset + 1) (hseen : row.IsOn .reset ∧ ¬ row.IsMarked) :
      row.IsOn (if k = index - a.offset + 1 then .blue else .reset)
        ∧ (row.IsMarked ↔ k = index - a.offset + 1) := by
    rw [if_neg hne]
    exact ⟨hseen.1, fun hmark => absurd hmark hseen.2, fun heq => absurd heq hne⟩
  rcases h.row_cases hrow with ⟨rfl, rfl⟩ | ⟨j, hj, t, rfl, rfl⟩ | ⟨hbelow, rfl⟩
  · exact hplain (by omega) (isOn_titleRow hwidth index)
  · have hiff : j + 1 = index - a.offset + 1 ↔ index = a.offset + j := by omega
    obtain ⟨hground, hmarked⟩ := isOn_taskRow hwidth index (a.offset + j) t
    rw [if_congr hiff rfl rfl, hmarked]
    exact ⟨hground, hiff.symm⟩
  · exact hplain (by omega) (isOn_blankLine hwidth)

/-- So the selected task is told from all other rows. -/
theorem ShowsRun.showsSelected {room : Size} {rows : List Line} {index shown : Nat}
    (h : a.ShowsRun room rows index shown) (hwidth : 2 ≤ room.width) :
    a.ShowsSelected room rows index shown where
  toShowsRun := h
  marked k row hrow := (h.row_seen hwidth hrow).2
  highlighted := by
    intro k row hrow
    obtain ⟨hground, -⟩ := h.row_seen hwidth hrow
    constructor
    · intro hblue
      by_contra hne
      rw [if_neg hne] at hground
      exact Color.noConfusion (hblue.unique hground)
    · intro heq
      rwa [if_pos heq] at hground
  plain := by
    intro k row hrow hne
    obtain ⟨hground, -⟩ := h.row_seen hwidth hrow
    rwa [if_neg hne] at hground

/-- The rows of the page as a state with a window draws them. -/
def pageRows (a : App) (width index shown : Nat) : List Line :=
  titleRow width (some index)
    :: taskRows width (some index) a.offset ((a.tasks.drop a.offset).take shown)

theorem length_pageRows {width index shown : Nat} (h : shown ≤ a.tasks.length - a.offset) :
    (a.pageRows width index shown).length = shown + 1 := by
  rw [pageRows, List.length_cons, length_taskRows, List.length_take, List.length_drop,
    Nat.min_eq_left h]

/-- The rows of the page are as wide as it is. -/
theorem width_pageRows {width index shown : Nat} {row : Line}
    (h : row ∈ a.pageRows width index shown) : row.length = width := by
  rcases List.mem_cons.mp h with rfl | hrow
  · exact Line.length_rowCells _ _ _ _
  · obtain ⟨k, hk⟩ := List.mem_iff_getElem?.mp hrow
    rw [getElem?_taskRows] at hk
    obtain ⟨t, -, rfl⟩ := Option.map_eq_some_iff.mp hk
    exact length_taskRow _ _ _ _

/-- **THE ROWS OF A WINDOW** that holds the selected task, filled up with blanks, are a run of
    the list. -/
theorem showsRun_pageRows {room : Size} {index shown : Nat} (hselected : a.selected = some index)
    (hfirst : a.offset ≤ index) (hlast : index < a.offset + shown)
    (hfills : shown = min (room.height - 1) (a.tasks.length - a.offset))
    (hheight : 1 ≤ room.height) :
    a.ShowsRun room (a.pageRows room.width index shown
      ++ List.replicate (room.height - (shown + 1)) (blankLine room.width)) index shown where
  selected := hselected
  first := hfirst
  last := hlast
  fills := hfills
  height := by
    rw [List.length_append, length_pageRows (by omega), List.length_replicate]
    omega
  width := by
    intro row hrow
    rcases List.mem_append.mp hrow with hmem | hblank
    · exact width_pageRows hmem
    · rw [List.eq_of_mem_replicate hblank]
      exact List.length_replicate
  titles := rfl
  tasks := by
    intro k hk
    have hlt : a.offset + k < a.tasks.length := by omega
    have htask : ((a.tasks.drop a.offset).take shown)[k]? = some a.tasks[a.offset + k] := by
      rw [List.getElem?_take_of_lt hk, List.getElem?_drop, List.getElem?_eq_getElem hlt]
    refine ⟨a.tasks[a.offset + k], List.getElem?_eq_getElem hlt, ?_⟩
    rw [List.getElem?_append_left (by rw [length_pageRows (by omega)]; omega), pageRows,
      List.getElem?_cons_succ, getElem?_taskRows, htask]
    rfl
  below := by
    intro k hk hlt
    rw [List.getElem?_append_right (by rw [length_pageRows (by omega)]; omega),
      List.getElem?_replicate, if_pos (by rw [length_pageRows (by omega)]; omega)]

/-- **THE WINDOW OF A STATE** with a valid selection is moved to hold the selected task. -/
theorem Selects.window (h : a.Selects) (hne : a.tasks ≠ []) (height : Nat) :
    ∃ i, a.selected = some i ∧ i < a.tasks.length
      ∧ a.window height = .around a.tasks.length a.offset height i := by
  cases hselected : a.selected with
  | none => exact absurd (h.none_iff.mp hselected) hne
  | some i =>
      have hlt := h.lt_length i hselected
      refine ⟨i, rfl, hlt, ?_⟩
      rw [App.window, hselected, Option.getD_some, Nat.min_eq_left (by omega)]

/-- The page of tasks is drawn in the window, which is kept. -/
theorem taskPage_eq (hne : a.tasks ≠ []) {i : Nat} (hselected : a.selected = some i)
    {height : Nat} {w : Window} (hwindow : a.window (height - 1) = w) (width : Nat) :
    let next : App := { a with offset := w.first }
    a.taskPage width height = (next, next.pageRows width i (w.stop - w.first)) := by
  intro next
  rw [taskPage, if_neg (by rw [List.isEmpty_iff]; exact hne), hwindow, pageRows, ← hselected]

/-- **WHAT IS DRAWN** within the frame is a run of the list with the selected task in it, and
    the window was moved no further than needed for that. -/
theorem Selects.showsRun (h : a.Selects) (htab : a.tab = .tasks) (hne : a.tasks ≠ [])
    {size : Size} (hwidth : 1 ≤ size.room.width) (hheight : 2 ≤ size.room.height) (busy : Bool) :
    ∃ index shown,
      (a.view size busy).1.ShowsRun size.room (size.page (a.view size busy).2) index shown
      ∧ ∀ first, first ≤ index → index < first + (size.room.height - 1) →
        (((a.view size busy).1.offset : Int) - min a.offset (a.tasks.length - 1)).natAbs
          ≤ ((first : Int) - min a.offset (a.tasks.length - 1)).natAbs := by
  obtain ⟨i, hi, hlt, hwindow⟩ := h.window hne (size.room.height - 1)
  have hpos : 0 < size.room.height - 1 := by omega
  obtain ⟨hfirst, hlast, hstop, hleast⟩ := Window.holds_around a.offset hpos hlt
  have hpage := taskPage_eq hne hi hwindow size.room.width
  generalize Window.around a.tasks.length a.offset (size.room.height - 1) i = w
    at hfirst hlast hstop hleast hpage
  have hshown : w.stop - w.first ≤ a.tasks.length - w.first := by omega
  have hlength (width : Nat) : (({ a with offset := w.first } : App).pageRows width i
      (w.stop - w.first)).length = w.stop - w.first + 1 := length_pageRows hshown
  obtain ⟨hnext, hrows⟩ := Size.page_view htab hwidth (by omega) busy hpage
    (fun row hrow => width_pageRows hrow) (by rw [hlength]; omega)
  rw [hnext, hrows, hlength]
  refine ⟨i, w.stop - w.first, showsRun_pageRows hi hfirst ?_ ?_ (by omega), hleast⟩
  · show i < w.first + (w.stop - w.first)
    omega
  · show w.stop - w.first = min (size.room.height - 1) (a.tasks.length - w.first)
    omega

/-! ## What drawing changes -/

variable {b : App}

theorem Alike.trans_left {c : App} (h : a.Alike b) (hc : a.Alike c) : b.Alike c := by
  obtain ⟨offset, rfl⟩ := h
  obtain ⟨other, rfl⟩ := hc
  exact ⟨other, rfl⟩

theorem Alike.select (h : a.Alike b) (selection : Option Nat) :
    (a.select selection).Alike (b.select selection) := by
  obtain ⟨offset, rfl⟩ := h
  cases selection with
  | none => exact ⟨0, rfl⟩
  | some i => exact ⟨offset, rfl⟩

theorem Alike.replaceTasks (h : a.Alike b) (tasks : List Task) :
    (a.replaceTasks tasks).Alike (b.replaceTasks tasks) := by
  obtain ⟨offset, rfl⟩ := h
  have hlist : ({ a with tasks := tasks } : App).Alike { a with tasks := tasks, offset := offset } :=
    ⟨offset, rfl⟩
  exact hlist.select _

end App

namespace AppStep

/-- The screen is drawn. -/
def isRender : AppStep → Bool
  | render _ _ => true
  | _ => false

end AppStep

namespace App

variable {a b : App}

/-- **NOTHING ELSE THAT IS DONE** depends on the offset. -/
theorem Alike.step (h : a.Alike b) {s : AppStep} (hs : s.isRender = false) :
    (a.step s).Alike (b.step s) := by
  cases s with
  | event e =>
      cases e with
      | tasksReplaced tasks =>
          obtain ⟨offset, hoffset⟩ := h.replaceTasks tasks
          exact ⟨offset, by rw [App.step, onEvent, hoffset]; rfl⟩
      | saveResult r =>
          obtain ⟨offset, rfl⟩ := h
          simp only [App.step, onEvent]
          split <;> exact ⟨offset, rfl⟩
      | _ =>
          obtain ⟨offset, rfl⟩ := h
          exact ⟨offset, rfl⟩
  | replaceTasks tasks => exact h.replaceTasks tasks
  | selectOffset places =>
      obtain ⟨offset, rfl⟩ := id h
      simp only [App.step, selectOffset]
      split <;> exact h.select _
  | clearStatus stale busy =>
      obtain ⟨offset, rfl⟩ := h
      simp only [App.step, clearStatus]
      split <;> exact ⟨offset, rfl⟩
  | render size busy => exact absurd hs.symm Bool.false_ne_true
  | _ =>
      obtain ⟨offset, rfl⟩ := h
      exact ⟨offset, rfl⟩

/-- What can be learnt of a state without drawing it. -/
structure Answer where
  tab : Tab
  tasks : List Task
  selected : Option Nat
  selectedTask? : Option Task
  serviceUrl : Option String
  status : Option StatusLine

/-- What a state answers. -/
def answer (a : App) : Answer where
  tab := a.tab
  tasks := a.tasks
  selected := a.selected
  selectedTask? := a.selectedTask?
  serviceUrl := a.serviceUrl
  status := a.status

/-- The answers after each thing that is done, drawing apart. -/
def answers (a : App) : List AppStep → List Answer
  | [] => []
  | s :: rest =>
    if s.isRender then (a.step s).answers rest else (a.step s).answer :: (a.step s).answers rest

theorem Alike.answer_eq (h : a.Alike b) : a.answer = b.answer := by
  obtain ⟨offset, rfl⟩ := h
  rfl

/-- **STEP AFTER STEP**, the answers are the same without the screens that were drawn. -/
theorem Alike.answers_filter (h : a.Alike b) (steps : List AppStep) :
    a.answers steps = b.answers (steps.filter fun s => !s.isRender) := by
  induction steps generalizing a b with
  | nil => rfl
  | cons s rest ih =>
      rw [answers]
      cases hs : s.isRender with
      | true =>
          have hdrawn : (a.step s).Alike b := by
            cases s with
            | render size busy => exact (a.alike_view size busy).trans_left h
            | _ => exact absurd hs Bool.false_ne_true
          rw [if_pos rfl, ih hdrawn, List.filter_cons_of_neg (by rw [hs]; exact Bool.false_ne_true)]
      | false =>
          have hnext := h.step hs
          rw [if_neg Bool.false_ne_true, List.filter_cons_of_pos (by rw [hs]; rfl), answers, hs,
            if_neg Bool.false_ne_true, hnext.answer_eq, ih hnext]

/-! ## The whole contract -/

/-- On a screen with room for it, the list is drawn with the selected task in view, and the
    window is moved no further than needed for that. -/
def KeepsInView (a : App) : Prop :=
  ∀ size busy, a.tab = .tasks → a.tasks ≠ [] → 2 ≤ size.room.width → 2 ≤ size.room.height →
    ∃ index shown,
      (a.view size busy).1.ShowsSelected size.room (size.page (a.view size busy).2) index shown
      ∧ ∀ first, first ≤ index → index < first + (size.room.height - 1) →
        (((a.view size busy).1.offset : Int) - min a.offset (a.tasks.length - 1)).natAbs
          ≤ ((first : Int) - min a.offset (a.tasks.length - 1)).natAbs

theorem Selects.keepsInView (h : a.Selects) : a.KeepsInView := by
  intro size busy htab hne hwidth hheight
  obtain ⟨index, shown, hrun, hleast⟩ := h.showsRun htab hne (by omega) hheight busy
  exact ⟨index, shown, hrun.showsSelected hwidth, hleast⟩

/-- **THE SELECTED TASK IS ALWAYS ON SCREEN.** -/
theorem selected_in_view :
    -- whatever was done and drawn before, from the empty screen on
    (∀ steps : List AppStep, (({} : App).run steps).KeepsInView)
    -- and so at every point of the main loop
    ∧ (∀ socket acts, ((Rounds.opened socket).1.run acts).1.dashboard.app.KeepsInView)
    -- while drawing changes nothing but where the window begins
    ∧ (∀ (a : App) size busy, ∃ offset,
        a.step (.render size busy) = { a with offset := offset })
    -- and no answer to anything else
    ∧ ∀ (a : App) steps, a.answers steps = a.answers (steps.filter fun s => !s.isRender) := by
  have hstart : ({} : App).Selects := .of_nil rfl rfl
  have hall (steps : List AppStep) := (hstart.run steps).keepsInView
  refine ⟨hall, ?_, alike_view, fun a steps => Alike.answers_filter ⟨a.offset, rfl⟩ steps⟩
  intro socket acts
  obtain ⟨steps, hsteps⟩ := Rounds.run_app socket acts
  rw [hsteps]
  exact hall steps

/-- The last one of five tasks is selected and drawn without room for any of them, and then
    comes a list of two. -/
def strandedSteps : List AppStep :=
  [.event (.tasksReplaced [{}, {}, {}, {}, {}]), .selectOffset 4, .render ⟨20, 10⟩ false,
    .event (.tasksReplaced [{}, {}])]

/-- The offset that was kept lies beyond the end of the list, and on a screen with room for
    one task it is still the selected one that is drawn. -/
theorem selected_in_view_stranded :
    (({} : App).run strandedSteps).offset = 4
      ∧ ∃ index shown, ((({} : App).run strandedSteps).view ⟨20, 12⟩ false).1.ShowsSelected
        ⟨16, 2⟩ (Size.page ⟨20, 12⟩ ((({} : App).run strandedSteps).view ⟨20, 12⟩ false).2)
        index shown := by
  obtain ⟨index, shown, hshown, -⟩ := selected_in_view.1 strandedSteps ⟨20, 12⟩ false rfl
    (List.cons_ne_nil _ _) (by decide) (by decide)
  exact ⟨rfl, index, shown, hshown⟩

end App

end TaskConsole
