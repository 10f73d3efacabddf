import Launcher.Terminal.Wrap

/-!
# Tables

A table has a head and rows between lines drawn with box characters. A column is as wide as its
widest line, unless its width is fixed or the table would be too wide for the terminal: then the
widest columns are narrowed, and their lines are broken. A row is as high as its highest cell.
-/

namespace Launcher.Terminal

open Launcher.Text

/-- The side on which a column is padded. -/
inductive Align where
  | left
  | right
deriving DecidableEq, Repr

/-- A column: its head, its width if that is fixed, on which side its lines are padded, and what
becomes of words that are too long. -/
structure Column where
  head : Text
  fixedWidth : Option Nat
  align : Align
  overflow : Overflow

/-- A cell: its text, and whether they are in a style of their own. -/
structure Cell where
  codes : Text
  isStyled : Bool

/-- A table: its columns and its rows. -/
structure Table where
  columns : List Column
  rows : List (List Cell)

/-- The character ends a line when a text is measured. -/
def isLineEnd (c : Code) : Bool :=
  let n := c.toNat
  (10 ≤ n && n ≤ 13) || (28 ≤ n && n ≤ 30) || n == 0x85 || n == 0x2028 || n == 0x2029

/-- The greatest of some numbers, or zero. -/
def greatest (ns : List Nat) : Nat := ns.foldl max 0

/-- The width of the widest line of a text. -/
def textWidth (cs : Text) : Nat :=
  greatest
    ((splitAt (.char '\n') (cs.map fun c => if isLineEnd c then .char '\n' else c)).map width)

namespace Cell

/-- A line of a cell cut or padded to a width. Padding is measured together with the line, unless
the line is in a style of its own. -/
def line (cell : Cell) (column : Column) (size : Nat) (cs : Text) : Text :=
  match column.align with
  | .left =>
    let cut := crop column.overflow size cs
    let padded := cut ++ spaces (size - width cut)
    if cell.isStyled then padded else padded ++ spaces (size - width padded)
  | .right =>
    let cut := crop column.overflow size (trimEnd cs)
    spaces (size - width cut) ++ cut

/-- The lines of a cell in a column of a width. -/
def lines (cell : Cell) (column : Column) (size : Nat) : List Text :=
  (brokenLines column.overflow size cell.codes).map (cell.line column size)

end Cell

/-! ## Widths -/

/-- A number divided by another to the nearest whole number, the even one of two. -/
def nearestQuotient (n d : Nat) : Nat :=
  let q := n / d
  if d < 2 * (n % d) || (2 * (n % d) == d && q % 2 == 1) then q + 1 else q

/-- The width of a column; `flexible` says that it may be narrowed. -/
structure Extent where
  size : Nat
  isFlexible : Bool
deriving DecidableEq, Repr

namespace Extent

/-- The extent is one of the widest, which have the width `widest`. -/
def isWidest (widest : Nat) (extent : Extent) : Bool := extent.isFlexible && extent.size == widest

/-- The widest extents narrowed by a share of `excess` each, but by `most` at most; `count` is their
number. -/
def narrowWidest (widest most : Nat) (excess count : Nat) : List Extent → List Extent
  | [] => []
  | extent :: rest =>
    if extent.isWidest widest then
      let share := min most (nearestQuotient excess count)
      { extent with size := extent.size - share } ::
        narrowWidest widest most (excess - share) (count - 1) rest
    else extent :: narrowWidest widest most excess count rest

/-- The width of some extents together. -/
def total (extents : List Extent) : Nat := extents.foldl (fun n extent => n + extent.size) 0

/-- The extents narrowed until they fit into `room`: the widest ones are brought down to the width
of the next ones. `fuel` is at least what they exceed `room` by. -/
def narrow (room : Nat) : Nat → List Extent → List Extent
  | 0, extents => extents
  | fuel + 1, extents =>
    let excess := total extents - room
    if excess = 0 then extents
    else
      let sizes := (extents.filter Extent.isFlexible).map Extent.size
      let widest := greatest sizes
      let most := min excess (widest - greatest (sizes.filter (· != widest)))
      let count := extents.countP (isWidest widest)
      if most = 0 then extents
      else narrow room fuel (narrowWidest widest most excess count extents)

end Extent

/-- What is drawn between and around the cells of a line. -/
structure Border where
  left : Code
  fill : Code
  middle : Code
  right : Code

/-- A line across the table. -/
def rule (border : Border) (widths : List Nat) : Text :=
  let pieces := widths.map fun size => List.replicate (size + 2) border.fill
  border.left :: joinWith border.middle pieces ++ [border.right]

namespace Table

/-- The head of the table as a row. -/
def head (table : Table) : List Cell := table.columns.map fun column => ⟨column.head, false⟩

/-- The columns that are left for cells and the spaces around them in a terminal of a width. -/
def room (table : Table) (size : Nat) : Nat := size - (table.columns.length + 1)

/-- The extents that the columns ask for, with a space on either side. -/
def wanted (table : Table) (room : Nat) : List Extent :=
  let contents := (table.head :: table.rows).map fun row => row.map fun cell => textWidth cell.codes
  let sizes := contents.foldl (List.zipWith max) (table.columns.map fun _ => 0)
  (List.zip table.columns sizes).map fun (column, size) =>
    ⟨min room (column.fixedWidth.getD size + 2), column.fixedWidth.isNone⟩

/-- The widths of the columns in a terminal of a width. -/
def widths (table : Table) (size : Nat) : List Nat :=
  let room := table.room size
  let extents := table.wanted room
  (Extent.narrow room (Extent.total extents) extents).map fun extent => extent.size - 2

/-- The lines of a row between bars. -/
def rowLines (table : Table) (widths : List Nat) (bar : Code) (row : List Cell) :
    List Text :=
  let cells := (List.zip (List.zip table.columns widths) row).map fun ((column, size), cell) =>
    (size, cell.lines column size)
  let height := greatest (1 :: cells.map fun (_, lines) => lines.length)
  (List.range height).map fun n =>
    let pieces := cells.map fun (size, lines) => " " ++ lines.getD n (spaces size) ++ " "
    bar :: joinWith bar pieces ++ [bar]

/-- The lines of a table in a terminal of a width. -/
def lines (table : Table) (size : Nat) : List Text :=
  let widths := table.widths size
  [rule ⟨'┏', '━', '┳', '┓'⟩ widths] ++ table.rowLines widths (.char '┃') table.head ++
    [rule ⟨'┡', '━', '╇', '┩'⟩ widths] ++ table.rows.flatMap (table.rowLines widths (.char '│')) ++
    [rule ⟨'└', '─', '┴', '┘'⟩ widths]

end Table

end Launcher.Terminal
