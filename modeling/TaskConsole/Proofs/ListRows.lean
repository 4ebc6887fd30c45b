import TaskConsole.Dashboard.View

/-! # The rows of the list — marks and backgrounds, cell by cell

    A row of the list has as many cells as the list is wide, whatever texts it holds
    (`length_rowCells`): what a symbol takes is counted, and the rest is cut or filled up.
    Where rows have marks and there is room for one, it stands in the first two cells
    (`take_rowCells`).  The background of a row is that of the terminal, and the one of the
    selected row is laid over it (`isOn_taskRow`). -/

namespace TaskConsole

open Text (Symbol symbols fitting)

namespace Cell

/-- What is seen at a place: nothing where a wide symbol reaches over it. -/
def text? : Cell → Option String
  | symbol text _ => some text
  | covered => none

theorem text?_restyle (style : Style) (c : Cell) : (c.restyle style).text? = c.text? := by
  cases c <;> rfl

end Cell

namespace Line

/-- The mark of the selected row stands in the first two columns of a row. -/
def IsMarked (row : Line) : Prop := (row.take 2).map Cell.text? = [some ">", some " "]

/-- A row is drawn on a background, all over. -/
structure IsOn (ground : Color) (row : Line) : Prop where
  drawn : ∃ text style, Cell.symbol text style ∈ row
  all : ∀ text style, Cell.symbol text style ∈ row → style.background = ground

/-- A row is drawn on one background only. -/
theorem IsOn.unique {ground other : Color} {row : Line} (h : row.IsOn ground)
    (hother : row.IsOn other) : ground = other := by
  obtain ⟨text, style, hmem⟩ := h.drawn
  exact (h.all text style hmem).symm.trans (hother.all text style hmem)

/-! ## Texts as cells -/

section Plain

variable {style : Style} (hplain : style.background = .reset)

include hplain

theorem background_ofSymbol (s : Symbol) {text : String} {other : Style}
    (h : Cell.symbol text other ∈ ofSymbol style s) : other.background = .reset := by
  rcases List.mem_cons.mp h with hhead | hrest
  · cases hhead
    exact hplain
  · rcases List.mem_append.mp hrest with hcovered | hblank
    · exact Cell.noConfusion (List.eq_of_mem_replicate hcovered)
    · cases List.eq_of_mem_replicate hblank
      rfl

theorem background_ofText (width : Nat) (label : String) {text : String} {other : Style}
    (h : Cell.symbol text other ∈ ofText style width label) : other.background = .reset := by
  obtain ⟨s, -, hs⟩ := List.mem_flatMap.mp h
  exact background_ofSymbol hplain s hs

theorem background_padded (width : Nat) {cells : Line}
    (hcells : ∀ text other, Cell.symbol text other ∈ cells → other.background = .reset)
    {text : String} {other : Style} (h : Cell.symbol text other ∈ padded style width cells) :
    other.background = .reset := by
  rcases List.mem_append.mp h with hmem | hfill
  · exact hcells text other hmem
  · cases List.eq_of_mem_replicate hfill
    exact hplain

theorem background_columnCells (columns : List (Nat × String)) {text : String} {other : Style}
    (h : Cell.symbol text other ∈ columnCells style columns) : other.background = .reset := by
  induction columns with
  | nil => exact absurd h List.not_mem_nil
  | cons column rest ih =>
      rcases List.mem_append.mp h with hcolumn | hrest
      · exact background_padded hplain _ (fun _ _ => background_ofText hplain _ _) hcolumn
      · rcases List.mem_cons.mp hrest with hgap | hmem
        · cases hgap
          exact hplain
        · exact ih hmem

/-- **A ROW** has the background of the terminal. -/
theorem background_rowCells (width : Nat) (mark : Option String) (texts : List String)
    {text : String} {other : Style} (h : Cell.symbol text other ∈ rowCells style width mark texts) :
    other.background = .reset := by
  refine background_padded hplain _ (fun text other hmem => ?_) h
  rcases List.mem_append.mp (List.mem_of_mem_take hmem) with hmark | hcells
  · exact background_ofText hplain _ _ hmark
  · exact background_columnCells hplain _ hcells

end Plain

/-- **A ROW** has as many cells as there are columns. -/
theorem length_rowCells (style : Style) (width : Nat) (mark : Option String)
    (texts : List String) : (rowCells style width mark texts).length = width := by
  simp only [rowCells, padded, List.length_append, List.length_replicate, List.length_take]
  omega

/-- Two symbols of one column each are two cells, where there is room for them. -/
theorem ofText_pair {style : Style} {width : Nat} {label first second : String}
    (h : symbols label.toList = [⟨first, 1⟩, ⟨second, 1⟩]) (hwidth : 2 ≤ width) :
    ofText style width label = [.symbol first style, .symbol second style] := by
  obtain ⟨room, rfl⟩ := Nat.exists_eq_add_of_le' hwidth
  have hfitting : fitting (room + 2) [⟨first, 1⟩, ⟨second, 1⟩]
      = [⟨first, 1⟩, ⟨second, 1⟩] := by
    rw [fitting, if_pos (Nat.le_add_left 1 (room + 1)), fitting, if_pos (by dsimp only; omega),
      fitting]
  rw [ofText, h]
  show (fitting (room + 2) [⟨first, 1⟩, ⟨second, 1⟩]).flatMap _ = _
  rw [hfitting]
  rfl

/-- **THE MARK** of a row stands in its first two cells. -/
theorem take_rowCells {style : Style} {width : Nat} {mark first second : String}
    (h : symbols mark.toList = [⟨first, 1⟩, ⟨second, 1⟩]) (hwidth : 2 ≤ width)
    (texts : List String) : (rowCells style width (some mark) texts).take 2
      = [.symbol first style, .symbol second style] := by
  obtain ⟨room, rfl⟩ := Nat.exists_eq_add_of_le' hwidth
  rw [rowCells, Option.getD_some, ofText_pair h hwidth]
  rfl

theorem length_restyle (style : Style) (row : Line) :
    (row.restyle style).length = row.length := List.length_map _

/-- A background laid over a row covers all of it. -/
theorem background_restyle {ground : Color} (hground : ground ≠ .reset) {row : Line}
    {text : String} {style : Style}
    (h : Cell.symbol text style ∈ row.restyle { background := ground }) :
    style.background = ground := by
  obtain ⟨below, -, hbelow⟩ := List.mem_map.mp h
  cases below with
  | covered => exact Cell.noConfusion hbelow
  | symbol text below =>
      cases hbelow
      exact if_neg hground

/-- A row is marked or not, whatever is laid over it. -/
theorem isMarked_restyle (style : Style) (row : Line) :
    (row.restyle style).IsMarked ↔ row.IsMarked := by
  rw [IsMarked, IsMarked, restyle, ← List.map_take, List.map_map]
  simp only [Function.comp_def, Cell.text?_restyle]

/-- A row with a mark is drawn on the background of the terminal, and its mark says whether
    it is that of the selected row. -/
theorem isOn_rowCells {style : Style} (hplain : style.background = .reset) {width : Nat}
    {mark first second : String} (h : symbols mark.toList = [⟨first, 1⟩, ⟨second, 1⟩])
    (hwidth : 2 ≤ width) (texts : List String) :
    (rowCells style width (some mark) texts).IsOn .reset
      ∧ ((rowCells style width (some mark) texts).IsMarked ↔ first = ">" ∧ second = " ") := by
  have htake : (rowCells style width (some mark) texts).take 2
      = [.symbol first style, .symbol second style] := take_rowCells h hwidth texts
  refine ⟨⟨⟨first, style, ?_⟩, fun _ _ => background_rowCells hplain _ _ _⟩, ?_⟩
  · exact List.mem_of_mem_take (htake ▸ List.mem_cons_self)
  · rw [IsMarked, htake]
    simp only [List.map_cons, List.map_nil, Cell.text?, List.cons.injEq, Option.some.injEq,
      and_true]

end Line

/-! ## The rows of the list -/

/-- The mark of the row at an index, where one is selected. -/
theorem markOf_some (selected index : Nat) :
    markOf (some selected) index = some (if selected = index then rowMark else "  ") := rfl

theorem length_taskRow (width : Nat) (mark : Option String) (isSelected : Bool) (t : Task) :
    (taskRow width mark isSelected t).length = width := by
  rw [taskRow]
  split
  · rw [Line.length_restyle, Line.length_rowCells]
  · rw [Line.length_rowCells]

theorem symbols_rowMark : symbols rowMark.toList = [⟨">", 1⟩, ⟨" ", 1⟩] := by decide +kernel

theorem symbols_blankMark : symbols "  ".toList = [⟨" ", 1⟩, ⟨" ", 1⟩] := by decide +kernel

/-- The row of titles has a blank mark, on the background of the terminal. -/
theorem isOn_titleRow {width : Nat} (hwidth : 2 ≤ width) (selected : Nat) :
    (titleRow width (some selected)).IsOn .reset ∧ ¬ (titleRow width (some selected)).IsMarked := by
  have hplain : ({ foreground := .yellow, bold := true } : Style).background = .reset := rfl
  obtain ⟨hground, hmarked⟩ := Line.isOn_rowCells hplain symbols_blankMark hwidth columnTitles
  exact ⟨hground, fun h => absurd (hmarked.mp h).1 (by decide)⟩

/-- **THE ROW OF A TASK** has the mark and the background of the selection if it is the
    selected one, and those of the terminal else. -/
theorem isOn_taskRow {width : Nat} (hwidth : 2 ≤ width) (selected index : Nat) (t : Task) :
    let row := taskRow width (markOf (some selected) index) (some selected == some index) t
    row.IsOn (if selected = index then .blue else .reset) ∧ (row.IsMarked ↔ selected = index) := by
  have hplain : ({ foreground := if t.enabled then .reset else .darkGray } : Style).background
      = .reset := rfl
  rw [markOf_some, taskRow]
  by_cases h : selected = index
  · obtain ⟨hground, hmarked⟩ := Line.isOn_rowCells hplain symbols_rowMark hwidth (taskTexts t)
    obtain ⟨text, style, hmem⟩ := hground.drawn
    rw [if_pos h, if_pos h, if_pos (by rw [h]; exact beq_self_eq_true _)]
    refine ⟨⟨?_, fun _ _ => Line.background_restyle Color.noConfusion⟩, ?_⟩
    · exact ⟨text, _, List.mem_map_of_mem hmem⟩
    · rw [Line.isMarked_restyle, hmarked]
      exact ⟨fun _ => h, fun _ => ⟨rfl, rfl⟩⟩
  · obtain ⟨hground, hmarked⟩ := Line.isOn_rowCells hplain symbols_blankMark hwidth (taskTexts t)
    rw [if_neg h, if_neg h, if_neg (by rwa [beq_iff_eq, Option.some.injEq])]
    exact ⟨hground, fun hmark => absurd (hmarked.mp hmark).1 (by decide), fun heq => absurd heq h⟩

/-- The rows of the list are those of the tasks, in their order. -/
theorem getElem?_taskRows (width : Nat) (selected : Option Nat) (index : Nat)
    (tasks : List Task) (k : Nat) : (taskRows width selected index tasks)[k]?
      = tasks[k]?.map fun t =>
        taskRow width (markOf selected (index + k)) (selected == some (index + k)) t := by
  induction tasks generalizing index k with
  | nil => rfl
  | cons t rest ih =>
      cases k with
      | zero => rfl
      | succ k =>
          rw [taskRows, List.getElem?_cons_succ, List.getElem?_cons_succ, ih,
            Nat.add_right_comm index 1 k, Nat.add_assoc index k 1]

theorem length_taskRows (width : Nat) (selected : Option Nat) (index : Nat)
    (tasks : List Task) : (taskRows width selected index tasks).length = tasks.length := by
  induction tasks generalizing index with
  | nil => rfl
  | cons t rest ih => rw [taskRows, List.length_cons, List.length_cons, ih]

end TaskConsole
