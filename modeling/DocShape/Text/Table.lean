import DocShape.Unicode.Width

namespace DocShape.Text

/-! Tables in frames of box-drawing characters.

Columns are as wide as their widest line, and a cell has as many lines as its text.
-/

/-- The characters of a horizontal rule: at its ends, along it, and where columns meet. -/
structure Rule where
  left : Char
  along : Char
  crossing : Char
  right : Char

/-- A cell's text by lines. -/
abbrev Cell := List String

namespace Table

def top : Rule := ⟨'┌', '─', '┬', '┐'⟩

def underHeader : Rule := ⟨'╞', '═', '╪', '╡'⟩

def betweenRows : Rule := ⟨'├', '╌', '┼', '┤'⟩

def bottom : Rule := ⟨'└', '─', '┴', '┘'⟩

def cell (text : String) : Cell := text.splitOn "\n"

def cellWidth (lines : Cell) : Nat := (lines.map Unicode.Width.ofText).foldl max 0

/-- The widths of columns so far, widened for a further row. -/
def widen : List Nat → List Cell → List Nat
  | width :: widths, lines :: row => max width (cellWidth lines) :: widen widths row
  | [], row => row.map cellWidth
  | widths, [] => widths

def repeated (count : Nat) (character : Char) : String :=
  String.ofList (List.replicate count character)

/-- A rule along columns, each of which has a blank on either side. -/
def ruleText (rule : Rule) (widths : List Nat) : String :=
  let spans := widths.map fun width => repeated (width + 2) rule.along
  rule.left.toString ++ rule.crossing.toString.intercalate spans ++ rule.right.toString

def padded (width : Nat) (line : String) : String :=
  " " ++ line ++ repeated (width - Unicode.Width.ofText line) ' ' ++ " "

/-- One line of a row; cells with fewer lines are blank in it. -/
def lineText (widths : List Nat) (row : List Cell) (index : Nat) : String :=
  let cells := (widths.zip row).map fun (width, lines) => padded width (lines.getD index "")
  "│" ++ "┆".intercalate cells ++ "│"

def rowLines (widths : List Nat) (row : List Cell) : List String :=
  (List.range ((row.map List.length).foldl max 0)).map (lineText widths row)

/-- A table with a header and at least one row. -/
def text (header : List String) (rows : List (List String)) : String :=
  let header := header.map cell
  let rows := rows.map fun row => row.map cell
  let widths := rows.foldl widen (header.map cellWidth)
  let body := [ruleText betweenRows widths].intercalate (rows.map (rowLines widths))
  "\n".intercalate
    (ruleText top widths :: rowLines widths header ++ ruleText underHeader widths :: body ++
      [ruleText bottom widths])

end Table
end DocShape.Text
