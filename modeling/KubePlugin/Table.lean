import KubePlugin.Text.Width

namespace KubePlugin

structure Table where
  header : List String
  rows : List (List String)
deriving DecidableEq, Repr

namespace Table

def lines : List Char → List (List Char)
  | [] => [[]]
  | c :: rest =>
    if c = '\n' then [] :: lines rest
    else match lines rest with
      | [] => [[c]]
      | l :: ls => (c :: l) :: ls

def cellLines (cell : String) : List (List Char) := lines cell.toList

def cellWidth (cell : String) : Nat :=
  ((cellLines cell).map lineWidth).foldl max 0

def widest (widths : List Nat) (row : List String) : List Nat :=
  List.zipWith max widths (row.map cellWidth)

def widths (t : Table) : List Nat :=
  t.rows.foldl widest (t.header.map cellWidth)

def padded (width : Nat) (line : List Char) : List Char :=
  [' '] ++ line ++ List.replicate (width - lineWidth line) ' ' ++ [' ']

structure Rule where
  left : Char
  along : Char
  cross : Char
  right : Char

def topRule : Rule := ⟨'┌', '─', '┬', '┐'⟩

def headerRule : Rule := ⟨'╞', '═', '╪', '╡'⟩

def rowRule : Rule := ⟨'├', '╌', '┼', '┤'⟩

def bottomRule : Rule := ⟨'└', '─', '┴', '┘'⟩

def Rule.draw (r : Rule) (widths : List Nat) : List Char :=
  [r.left] ++
    [r.cross].intercalate (widths.map fun w => List.replicate (w + 2) r.along) ++ [r.right]

def drawLine (widths : List Nat) (parts : List (List Char)) : List Char :=
  ['│'] ++ ['┆'].intercalate (List.zipWith padded widths parts) ++ ['│']

def height (row : List String) : Nat :=
  (row.map fun cell => (cellLines cell).length).foldl max 0

def drawRow (widths : List Nat) (row : List String) : List (List Char) :=
  (List.range (height row)).map fun k =>
    drawLine widths (row.map fun cell => (cellLines cell)[k]?.getD [])

def draw (t : Table) : List (List Char) :=
  let ws := t.widths
  [topRule.draw ws] ++ drawRow ws t.header ++ [headerRule.draw ws] ++
    [rowRule.draw ws].intercalate (t.rows.map (drawRow ws)) ++ [bottomRule.draw ws]

def render (t : Table) : String :=
  String.ofList (['\n'].intercalate t.draw)

end Table

end KubePlugin
