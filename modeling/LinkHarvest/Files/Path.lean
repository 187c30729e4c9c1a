import LinkHarvest.Text.Basic

/-!
# Paths

A path is a root, which is empty for a relative path, and the names below it. Empty names and
single dots do not count; two dots do, since they depend on what the tree holds.
-/

namespace LinkHarvest

/-- A path in a tree of files. The root is empty, one slash, or two. -/
structure FilePath where
  root : Text
  names : List Text
  deriving DecidableEq, Repr

namespace FilePath

def namesOf (t : Text) : List Text :=
  (Text.split '/' t).filter fun name => !name.isEmpty && name != ['.']

/-- Reads a path. Exactly two slashes at its start are kept. -/
def ofText (t : Text) : FilePath :=
  let slashes := (t.takeWhile (· = '/')).length
  ⟨if slashes = 0 then [] else if slashes = 2 then ['/', '/'] else ['/'], namesOf t⟩

/-- The text of a path; a single dot for the path without names. -/
def text (p : FilePath) : Text :=
  let t := p.root ++ Text.joined ['/'] p.names
  if t.isEmpty then ['.'] else t

def isAbsolute (p : FilePath) : Bool := !p.root.isEmpty

def parent (p : FilePath) : FilePath := { p with names := p.names.dropLast }

def name (p : FilePath) : Text := p.names.getLastD []

/-- The part of the last name from its last dot on; a dot at either end of the name does not
count. -/
def suffix (p : FilePath) : Text :=
  match Text.cutLast '.' p.name with
  | some (before, after) => if before.isEmpty || after.isEmpty then [] else '.' :: after
  | none => []

/-- A path read from a directory; an absolute path stays. -/
def below (directory p : FilePath) : FilePath :=
  if p.isAbsolute then p else { directory with names := directory.names ++ p.names }

/-- The names of a path without the steps up; a step up from the root stays there. -/
def withoutSteps (done : List Text) : List Text → List Text
  | [] => done.reverse
  | name :: rest =>
    if name = ['.', '.'] then withoutSteps (done.drop 1) rest else withoutSteps (name :: done) rest

/-- The absolute path, without steps up, that a path means in a working directory. -/
def resolved (home : List Text) (p : FilePath) : FilePath :=
  ⟨['/'], withoutSteps [] (if p.isAbsolute then p.names else home ++ p.names)⟩

end FilePath

end LinkHarvest
