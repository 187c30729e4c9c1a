import LinkHarvest.Text.Basic

/-!
# What is printed

A command prints lines and tables. Their texts may hold markup: a tag is a word in square brackets
that starts with a lower-case letter or one of three signs, and a backslash before a tag makes it
plain text.
-/

namespace LinkHarvest.Command

/-! ## Markup -/

/-- Whether a tag may start with a character. -/
def startsTag (c : Char) : Bool := ('a' ≤ c && c ≤ 'z') || c == '#' || c == '/' || c == '@'

/-- The rest of a tag up to its closing bracket, and what follows it. -/
def tagRest? : Text → Option (Text × Text)
  | [] => none
  | c :: rest =>
    if c = ']' then some ([c], rest)
    else if c = '[' then none
    else (tagRest? rest).map fun (tag, after) => (c :: tag, after)

def tag? (t : Text) : Option Text :=
  match t with
  | '[' :: c :: rest =>
    if startsTag c then (tagRest? rest).map fun (tag, _) => '[' :: c :: tag else none
  | _ => none

/-- The text with a backslash before every tag and before every backslash that stands before one;
`pending` backslashes stand before the text. -/
def escapeTags (pending : Nat) : Text → Text
  | [] => List.replicate pending '\\'
  | c :: rest =>
    if c = '\\' then escapeTags (pending + 1) rest
    else
      let slashes := if (tag? (c :: rest)).isSome then 2 * pending + 1 else pending
      List.replicate slashes '\\' ++ c :: escapeTags 0 rest

/-- The text as markup that shows it as it is. -/
def escapeMarkup (t : Text) : Text :=
  let t := escapeTags 0 t
  if Text.endsWith t ['\\'] && !Text.endsWith t ['\\', '\\'] then t ++ ['\\'] else t

/-! ## Lines and tables -/

/-- How a line is set off. -/
inductive Style
  | red
  | green
  | yellow
  | cyan
  | dim
  deriving DecidableEq, Repr

def Style.name : Style → Text
  | .red => "red"
  | .green => "green"
  | .yellow => "yellow"
  | .cyan => "cyan"
  | .dim => "dim"

/-- A line, or a table with a title, the heads of its columns and its rows. -/
inductive Printed
  | line (t : Text) (style : Option Style)
  | table (title : Text) (columns : List Text) (rows : List (List Text))
  deriving DecidableEq, Repr

end LinkHarvest.Command
