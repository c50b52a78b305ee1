import GoRepl.TestBed.Command.Basic
import GoRepl.TestBed.Command.Scalar

/-! # Test bed: names in columns

Names fill as many columns as fit on a line, down or across, or follow one another with commas
between them. -/

namespace GoRepl.Machine.Listing

/-- A text with the width that it has when it is shown. -/
structure Cell where
  text : Text
  width : Nat

/-- How names are laid out. -/
inductive Layout where
  /-- Each name on a line with all that is known of it. -/
  | long
  | single
  /-- In columns that are filled from top to bottom. -/
  | down
  /-- In columns that are filled line by line. -/
  | across
  | commas
deriving DecidableEq

/-- The least width of a column. -/
def columnWidth : Nat := 3

/-- How wide columns have to be for names of some lengths; two blanks follow a name that does not
stand in the last column. -/
def columnWidths (down : Bool) (columns : Nat) (lengths : List Nat) : List Nat :=
  let rows := (lengths.length + columns - 1) / columns
  lengths.zipIdx.foldl (fun widths (n, k) =>
    let column := if down then k / rows else k % columns
    widths.modify column (max (if column + 1 = columns then n else n + 2)))
    (List.replicate columns columnWidth)

/-- The widths of as many columns as fit on a line. -/
def fittingWidths (down : Bool) (line : Nat) (lengths : List Nat) : List Nat :=
  let most := min ((line + columnWidth - 1) / columnWidth) lengths.length
  let fitting := (List.range most).reverse.findSome? fun k =>
    let widths := columnWidths down (k + 1) lengths
    if widths.all (· = columnWidth) || widths.foldl (· + ·) 0 < line then some widths else none
  fitting.getD (columnWidths down 1 lengths)

/-- The blanks and tabs that lead from one position of a line to another. -/
def gap (tab : Nat) : (fuel : Nat) → (start stop : Nat) → Text
  | 0, _, _ => []
  | fuel + 1, start, stop =>
    if stop ≤ start then []
    else if tab ≠ 0 && (start + 1) / tab < stop / tab then
      '\t' :: gap tab fuel (start + (tab - start % tab)) stop
    else ' ' :: gap tab fuel (start + 1) stop

/-- A line of names in columns that begin at a position. -/
def rowOf (tab : Nat) : (start : Nat) → (widths : List Nat) → List Cell → Text
  | start, w :: widths, cell :: next :: cells =>
    cell.text ++ gap tab w (start + cell.width) (start + w) ++
      rowOf tab (start + w) widths (next :: cells)
  | _, _, cells => cells.flatMap Cell.text

/-- Names in columns. -/
def inColumns (down : Bool) (line tab : Nat) (ending : Char) (cells : List Cell) : Text :=
  let widths := fittingWidths down line (cells.map Cell.width)
  let columns := widths.length
  let rows := (cells.length + columns - 1) / columns
  let lines := if down then
      (List.range rows).map fun r => (List.range columns).filterMap fun k => cells[r + k * rows]?
    else pieces columns cells
  if cells.isEmpty then [] else lines.flatMap fun l => rowOf tab 0 widths l ++ [ending]

/-- Names with a sign between them, in lines that are not longer than `line`, or in one line if that
is zero. -/
def inSequence (line : Nat) (sign ending : Char) (cells : List Cell) : Text :=
  match cells with
  | [] => []
  | first :: rest =>
    let (shown, _) := rest.foldl (fun (shown, position) cell =>
      if line = 0 || position + cell.width + 2 < line then
        (shown ++ [sign, ' '] ++ cell.text, position + 2 + cell.width)
      else (shown ++ [sign, ending] ++ cell.text, cell.width)) (first.text, first.width)
    shown ++ [ending]

/-- Names as they are laid out. -/
def Layout.render (layout : Layout) (line tab : Nat) (ending : Char) (cells : List Cell) : Text :=
  match layout with
  | .long | .single => cells.flatMap fun cell => cell.text ++ [ending]
  | .commas => inSequence line ',' ending cells
  | .down =>
    if line = 0 then inSequence 0 ' ' ending cells else inColumns true line tab ending cells
  | .across =>
    if line = 0 then inSequence 0 ' ' ending cells else inColumns false line tab ending cells

end GoRepl.Machine.Listing
