import LinkHarvest.Command.Printed

/-!
# The screen

Lines and tables as plain text: markup is resolved, and the columns of a table are filled up to
their widest cell.
-/

namespace LinkHarvest.Command

/-- The text that markup shows: a tag after an odd number of backslashes stands as it is, with half
of them. `pending` backslashes stand before the text. -/
def shownMarkup (pending : Nat) : Text → Text
  | [] => List.replicate pending '\\'
  | c :: rest =>
    if c = '\\' then shownMarkup (pending + 1) rest
    else
      let slashes := if (tag? (c :: rest)).isSome then pending / 2 else pending
      List.replicate slashes '\\' ++ c :: shownMarkup 0 rest

def filled (width : Nat) (cell : Text) : Text := cell ++ List.replicate (width - cell.length) ' '

def widths (table : List (List Text)) : List Nat :=
  table.foldl
    (fun widest row =>
      (List.range (max widest.length row.length)).map fun i =>
        max (widest.getD i 0) (row.getD i []).length) []

def rowText (columns : List Nat) (row : List Text) : Text :=
  Text.joined [' ', ' '] (columns.zipWith filled row)

def Printed.lines : Printed → List Text
  | .line t _ => [shownMarkup 0 t]
  | .table title heads rows =>
    let table := heads :: rows.map fun row => row.map (shownMarkup 0)
    title :: table.map (rowText (widths table))

end LinkHarvest.Command
