import LinkHarvest.Files.Tree

/-!
# Export

Writes links to a file, one on a line, in place of what the file held before. The directory of the
file is made when it is missing.
-/

namespace LinkHarvest.Run

/-- A file that could not be opened for the export. -/
structure ExportProblem where
  path : FilePath
  problem : FileProblem
  deriving DecidableEq, Repr

def ExportProblem.message (p : ExportProblem) : Text :=
  Text.concat ["cannot open output file ", p.path.text, ": ", p.problem.message]

def exportText (links : List Text) : Text := links.flatMap fun link => link ++ ['\n']

/-- Makes the directory of a file, unless there is something at its path. -/
def ensureParent (files : Files) (path : FilePath) : Except FileProblem Files := do
  if ← files.exists? path.parent then return files
  files.ensureDirectories path.parent

def exportLinks (files : Files) (path : FilePath) (links : List Text) :
    Except ExportProblem Files :=
  match ensureParent files path with
  | .error problem => .error ⟨path, problem⟩
  | .ok files => (files.write path (Utf8.encode (exportText links))).mapError (⟨path, ·⟩)

end LinkHarvest.Run
