import LinkHarvest.Files.Path
import LinkHarvest.Store.Database
import LinkHarvest.Text.Quoted
import LinkHarvest.Text.Utf8

/-!
# The tree of files

The files and directories that a program works on. A place is the list of names that leads to it
from the root. The root and the directories above the working directory are always there.
-/

namespace LinkHarvest

/-- What is found at a place. -/
inductive FileEntry
  | directory
  | file (content : Bytes)
  | database (d : Database)
  deriving DecidableEq, Repr

/-- A tree of files and its working directory. -/
structure Files where
  home : List Text
  entries : List (List Text × FileEntry)

/-- Why a path cannot be used. -/
inductive FileFault
  | notFound
  | exists
  | notDirectory
  | isDirectory
  | nameTooLong
  | nullCharacter
  deriving DecidableEq, Repr

/-- A fault and the path at which it arose. -/
structure FileProblem where
  fault : FileFault
  path : FilePath
  deriving DecidableEq, Repr

def FileProblem.message (p : FileProblem) : Text :=
  let numbered (number : Nat) (text : Text) : Text :=
    Text.concat ["[Errno ", Text.ofNat number, "] ", text, ": ", Text.quoted p.path.text]
  match p.fault with
  | .notFound => numbered 2 "No such file or directory"
  | .exists => numbered 17 "File exists"
  | .notDirectory => numbered 20 "Not a directory"
  | .isDirectory => numbered 21 "Is a directory"
  | .nameTooLong => numbered 36 "File name too long"
  | .nullCharacter => "embedded null byte"

namespace Files

def at? (files : Files) (place : List Text) : Option FileEntry :=
  match files.entries.find? fun e => e.1 = place with
  | some (_, entry) => some entry
  | none => if place.isPrefixOf files.home then some .directory else none

/-- The tree with something put at a place. -/
def put (files : Files) (place : List Text) (entry : FileEntry) : Files :=
  { files with entries := (place, entry) :: files.entries.filter fun e => e.1 ≠ place }

/-- Goes from a place to one of the names below it. -/
def enter (files : Files) (place : List Text) (name : Text) : Except FileFault (List Text) :=
  match files.at? place with
  | none => .error .notFound
  | some .directory =>
    if 255 < (Utf8.encode name).length then .error .nameTooLong
    else .ok (if name = ['.', '.'] then place.dropLast else place ++ [name])
  | some _ => .error .notDirectory

/-- The place that a path leads to. It may be empty, but what leads to it is there. -/
def locate (files : Files) (p : FilePath) : Except FileFault (List Text) :=
  if p.text.contains '\x00' then .error .nullCharacter
  else if 4096 ≤ (Utf8.encode p.text).length then .error .nameTooLong
  else p.names.foldlM (enter files) (if p.isAbsolute then [] else files.home)

def find (files : Files) (p : FilePath) : Except FileProblem FileEntry :=
  match files.locate p with
  | .error fault => .error ⟨fault, p⟩
  | .ok place =>
    match files.at? place with
    | some entry => .ok entry
    | none => .error ⟨.notFound, p⟩

def isDirectory (files : Files) (p : FilePath) : Bool :=
  match files.find p with
  | .ok .directory => true
  | _ => false

/-- Whether there is anything at a path. A path that is too long cannot be looked up. -/
def exists? (files : Files) (p : FilePath) : Except FileProblem Bool :=
  match files.find p with
  | .ok _ => .ok true
  | .error problem =>
    match problem.fault with
    | .nameTooLong => .error problem
    | _ => .ok false

/-- The content of a file. The bytes in which a database is kept are not part of the tree: it reads
as an empty file. -/
def read (files : Files) (p : FilePath) : Except FileProblem Bytes :=
  match files.find p with
  | .ok .directory => .error ⟨.isDirectory, p⟩
  | .ok (.file content) => .ok content
  | .ok (.database _) => .ok []
  | .error problem => .error problem

/-- The place for a file that is to be written. -/
def placeForFile (files : Files) (p : FilePath) : Except FileProblem (List Text) :=
  match files.locate p with
  | .error fault => .error ⟨fault, p⟩
  | .ok place =>
    match files.at? place, files.at? place.dropLast with
    | some .directory, _ => .error ⟨.isDirectory, p⟩
    | some _, _ => .ok place
    | none, some .directory => .ok place
    | none, some _ => .error ⟨.notDirectory, p⟩
    | none, none => .error ⟨.notFound, p⟩

/-- Writes a file, in place of what it held before. -/
def write (files : Files) (p : FilePath) (content : Bytes) : Except FileProblem Files := do
  return files.put (← files.placeForFile p) (.file content)

def makeDirectory (files : Files) (p : FilePath) : Except FileProblem Files :=
  match files.locate p with
  | .error fault => .error ⟨fault, p⟩
  | .ok place =>
    match files.at? place with
    | some _ => .error ⟨.exists, p⟩
    | none => .ok (files.put place .directory)

/-- Makes one directory unless it is there. -/
def ensureDirectory (files : Files) (p : FilePath) : Except FileProblem Files :=
  match files.makeDirectory p with
  | .ok files => .ok files
  | .error problem =>
    if problem.fault ≠ .notFound ∧ files.isDirectory p then .ok files else .error problem

/-- Makes the directory with the given names, last first, and what leads to it. -/
def ensureNames (files : Files) (root : Text) : List Text → Except FileProblem Files
  | [] => files.ensureDirectory ⟨root, []⟩
  | name :: outer =>
    let p : FilePath := ⟨root, (name :: outer).reverse⟩
    match files.ensureDirectory p with
    | .ok files => .ok files
    | .error problem =>
      if problem.fault = .notFound then do
        (← files.ensureNames root outer).ensureDirectory p
      else .error problem

/-- Makes a directory and what leads to it, unless it is there. -/
def ensureDirectories (files : Files) (p : FilePath) : Except FileProblem Files :=
  files.ensureNames p.root p.names.reverse

def touch (files : Files) (p : FilePath) : Except FileProblem Files :=
  match files.find p with
  | .ok _ => .ok files
  | .error _ => files.write p []

end Files

end LinkHarvest
