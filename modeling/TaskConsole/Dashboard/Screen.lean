import TaskConsole.Text.Width

/-!
# Screens — rows of styled cells

* `Style`, `Style.laidOver` — colours and weight, and one laid over another;
* `Cell` — a symbol with its style, or the place that a wide symbol covers;
* `Line.ofText`, `Line.ofSpans` — a label and a flowing text as cells, cut to a width;
* `Line.padded`, `Line.onto` — cells filled up, and laid onto others;
* `boxed` — a frame with a title around the rows within it. -/

namespace TaskConsole

open Text (Symbol symbols fitting)

/-- The colours that are used; `reset` is that of the terminal. -/
inductive Color where
  | reset
  | yellow
  | cyan
  | blue
  | red
  | green
  | darkGray
  deriving DecidableEq, Repr

/-- How a cell is drawn. -/
structure Style where
  foreground : Color := .reset
  background : Color := .reset
  bold : Bool := false
  deriving DecidableEq, Repr

namespace Style

/-- The style of the terminal. -/
def plain : Style := {}

/-- A style laid over another: what it leaves open is as below. -/
def laidOver (top below : Style) : Style where
  foreground := if top.foreground = .reset then below.foreground else top.foreground
  background := if top.background = .reset then below.background else top.background
  bold := top.bold || below.bold

end Style

/-- A place on the screen. -/
inductive Cell where
  | symbol (text : String) (style : Style)
  -- the place to the right of a wide symbol, which is never drawn on
  | covered
  deriving DecidableEq

namespace Cell

/-- A place with nothing on it. -/
def blank : Cell := symbol " " .plain

/-- A style laid over a cell. -/
def restyle (style : Style) : Cell → Cell
  | symbol text below => symbol text (style.laidOver below)
  | covered => covered

end Cell

/-- A row of cells. -/
abbrev Line := List Cell

/-- A text in one style. -/
structure Span where
  text : String
  style : Style := .plain

namespace Line

/-- The cells of a symbol: it covers the next place when it is wide, and clears those
beyond that. -/
def ofSymbol (style : Style) (s : Symbol) : Line :=
  .symbol s.text style
    :: (List.replicate (min 1 (s.columns - 1)) Cell.covered
      ++ List.replicate (s.columns - 2) Cell.blank)

/-- The cells of a label in one style, cut to a width.  Symbols without a column are left
out; the first that does not fit ends the label. -/
def ofText (style : Style) (width : Nat) (text : String) : Line :=
  (fitting width ((symbols text.toList).filter (0 < ·.columns))).flatMap (ofSymbol style)

/-- The cells of symbols that flow: one without a column shares its place with the next
one, which hides it; at the end it is seen. -/
def ofFlow : List (Symbol × Style) → Line
  | [] => []
  | (s, style) :: rest =>
    if s.columns = 0 then
      (if rest.isEmpty then [.symbol s.text style] else ofFlow rest)
    else ofSymbol style s ++ ofFlow rest

/-- The symbols of spans that flow in one row: line feeds between symbols are left out,
and symbols that no row of the width could hold. -/
def flow (width : Nat) (spans : List Span) : List (Symbol × Style) :=
  spans.flatMap fun span =>
    ((symbols span.text.toList).filter fun s => s.text != "\n" && s.columns ≤ width).map
      fun s => (s, span.style)

/-- The flowing symbols that fit in so many columns; the first that does not ends them. -/
def fittingFlow : Nat → List (Symbol × Style) → List (Symbol × Style)
  | _, [] => []
  | room, (s, style) :: rest =>
    if s.columns ≤ room then (s, style) :: fittingFlow (room - s.columns) rest else []

/-- The cells of a text that flows in one row, cut to a width.  A last symbol without a
column takes a place even beyond the width. -/
def ofSpans (width : Nat) (spans : List Span) : Line :=
  if width = 0 then [] else ofFlow (fittingFlow width (flow width spans))

/-- A row filled up with blanks to a width. -/
def padded (style : Style) (width : Nat) (cells : Line) : Line :=
  cells ++ List.replicate (width - cells.length) (.symbol " " style)

/-- A row laid onto the start of another. -/
def onto (front back : Line) : Line := front ++ back.drop front.length

/-- A style laid over a whole row. -/
def restyle (style : Style) (cells : Line) : Line := cells.map (Cell.restyle style)

end Line

/-- A screen: its rows, from the top. -/
abbrev Screen := List Line

/-! ## Frames -/

/-- A symbol in the style of the terminal. -/
def plainCell (c : Char) : Cell := .symbol (String.singleton c) .plain

/-- A row of a width between two corners, of which the left one comes first. -/
def barred (left fill right : Char) : Nat → Line
  | 0 => []
  | 1 => [plainCell left]
  | n + 2 => plainCell left :: List.replicate n (plainCell fill) ++ [plainCell right]

/-- A row of a frame with cells laid onto what is right of the left border. -/
def barredWith (left fill right : Char) (width : Nat) (cells : Line) : Line :=
  (barred left fill right width).take 1 ++ cells.onto ((barred left fill right width).drop 1)

/-- A frame of a width and height with a title, around rows that are cut to the room
within. -/
def boxed (title : String) (width : Nat) : (height : Nat) → (rows : List Line) → List Line
  | 0, _ => []
  | 1, _ => [barredWith '┌' '─' '┐' width (Line.ofText .plain (width - 2) title)]
  | n + 2, rows =>
    let blank := List.replicate (n - rows.length) []
    barredWith '┌' '─' '┐' width (Line.ofText .plain (width - 2) title)
      :: (rows.take n ++ blank).map (barredWith '│' ' ' '│' width)
      ++ [barred '└' '─' '┘' width]

end TaskConsole
