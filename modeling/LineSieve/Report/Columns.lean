import LineSieve.Text.Search
import LineSieve.Real.Decimal

/- Aligned columns. A text marks the end of a cell by a tab; the cells of neighbouring lines that
   end so at the same place form a column, as wide as its longest cell and two spaces. The last
   cell of a line ends with the line and belongs to no column. -/
namespace LineSieve.Report

/-- One line: its cells that end with a tab, and its last cell. -/
structure Row where
  cells : List (List Char)
  last : List Char
  deriving DecidableEq, Repr

def columnGap : Nat := 2

def Row.ofLine (line : List Char) : Row :=
  let cells := Text.splitOn '\t' (line.map fun c => if c == '\x0b' then '\t' else c)
  ⟨cells.dropLast, cells.getLast?.getD []⟩

def padTo (width : Nat) (cell : List Char) : List Char :=
  cell ++ List.replicate (width - cell.length) ' '

def columnWidth (rows : List Row) : Nat :=
  columnGap + rows.foldl (fun most row => max most (row.cells.headD []).length) 0

def alignRows : Nat → List Row → List (List Char)
  | 0, rows => rows.map (·.last)
  | columns + 1, rows =>
    (rows.splitBy fun a b => a.cells.isEmpty == b.cells.isEmpty).flatMap fun block =>
      if block.all (·.cells.isEmpty) then block.map (·.last)
      else
        let width := columnWidth block
        let tails := alignRows columns (block.map fun row => ⟨row.cells.tail, row.last⟩)
        List.zipWith (fun row tail => padTo width (row.cells.headD []) ++ tail) block tails

def alignLines (lines : List (List Char)) : List (List Char) :=
  let rows := lines.map Row.ofLine
  alignRows (rows.foldl (fun most row => max most row.cells.length) 0) rows

/-- Align a text; a form feed ends a line and every column with it. -/
def align (text : List Char) : List Char :=
  let sections := (Text.splitOn '\x0c' text).map fun part =>
    Text.join ['\n'] (alignLines (Text.splitOn '\n' part))
  Text.join ['\n'] sections

def groupDigits : List Char → List Char
  | a :: b :: c :: d :: rest => a :: b :: c :: ',' :: groupDigits (d :: rest)
  | digits => digits

def grouped (n : Int) : String :=
  let digits := String.ofList (groupDigits (Nat.toDigits 10 n.natAbs).reverse).reverse
  if n < 0 then "-" ++ digits else digits

def divideToEven (n d : Nat) : Nat :=
  let q := n / d
  let twice := 2 * (n % d)
  if d < twice || (twice == d && q % 2 == 1) then q + 1 else q

def tenths (x : Float) : String :=
  match Binary.ofFloat? x with
  | none => String.ofList (Decimal.ofFloat x)
  | some b =>
    let (n, d) := b.quotient
    let rounded := divideToEven (10 * n) d
    (if b.negative then "-" else "") ++ toString (rounded / 10) ++ "." ++ toString (rounded % 10)

end LineSieve.Report
