import LinkHarvest.Command.Program
import LinkHarvest.Command.Screen
import LinkHarvest.Http.RouteTable
import LinkHarvest.Store.Archive
import Std.Time.DateTime

/-!
# The program

Carries out one call in the working directory: reads the files that the call can touch, decides
what it does, and writes back the files that it changed. The network is the table of routes in the
file `routes.json`.
-/

namespace LinkHarvest

/-! ## Reading files -/

def placeText (place : List Text) : String := String.ofList ('/' :: Text.joined ['/'] place)

/-- A file with the given content, which may be a database. -/
def entryOf (content : Bytes) : FileEntry :=
  match Database.ofArchive? content with
  | some db => .database db
  | none => .file content

/-- Puts what is found at a place into the tree, with all that is below it if `deep`. -/
partial def readPlace (deep : Bool) (files : Files) (place : List Text) : IO Files := do
  let path := (← IO.currentDir) / placeText place
  if ← path.isDir then
    let mut files := files.put place .directory
    if deep then
      for e in ← path.readDir do
        files ← readPlace true files (place ++ [e.fileName.toList])
    return files
  else if ← path.pathExists then
    return files.put place (entryOf (← IO.FS.readBinFile path).toList)
  else return files

/-- Puts what a path leads to into the tree, with the directories that lead to it. -/
def readPath (files : Files) (p : FilePath) : IO Files := do
  let mut files := files
  let names := (p.resolved files.home).names
  for i in List.range names.length do
    files ← readPlace false files (names.take (i + 1))
  return files

/-- The paths that the configuration of a project names. -/
def configuredPaths (files : Files) : List FilePath :=
  match Project.openAt files (.ofText []) with
  | (.error _, _) => []
  | (.ok p, files) =>
    match p.load files with
    | .error _ => []
    | .ok (config, _, _) => config.databaseAt p.root :: config.defaultOutput.toList

/-- The file that holds the table of routes. -/
def routesPath : FilePath := .ofText "routes.json"

/-- The paths that an argument can name: by itself, or after the option that it starts with. -/
def namedPaths (arg : Text) : List FilePath :=
  [arg, arg.drop 2, Text.after '=' arg].map FilePath.ofText

/-- The files that a call with the given arguments can touch. -/
def readFiles (args : List Text) : IO Files := do
  let home := FilePath.namesOf (← IO.currentDir).toString.toList
  let mut files : Files := ⟨home, []⟩
  for name in ["data", "logs"] do
    files ← readPlace true files (home ++ [name.toList])
  for p in routesPath :: args.flatMap namedPaths ++ configuredPaths files do
    files ← readPath files p
  return files

/-! ## Writing files -/

/-- Writes what one place of the tree holds. -/
def writePlace (place : List Text) (entry : FileEntry) : IO Unit := do
  let path := placeText place
  match entry with
  | .directory => IO.FS.createDirAll path
  | .file content => IO.FS.writeBinFile path ⟨content.toArray⟩
  | .database db => IO.FS.writeBinFile path ⟨db.archived.toArray⟩

def writeFiles (before after : Files) : IO Unit := do
  for (place, entry) in after.entries.reverse do
    if before.at? place ≠ some entry then
      IO.FS.createDirAll (placeText place.dropLast)
      writePlace place entry

/-! ## Calling -/

def present : IO Instant := do
  let epoch := Calendar.daysBeforeYear 1970 * DateTime.microsPerDay
  let now ← Std.Time.Timestamp.now
  return ⟨epoch + (now.toNanosecondsSinceUnixEpoch.val / 1000).toNat⟩

/-- Whether a call ended because its question was not answered. -/
def isWaiting (r : Command.Report) : Bool :=
  r.ending = .failed && r.printed.isEmpty && !r.dialogue.isEmpty

/-- Carries out a call, and asks for more lines until its question is answered or they end. The
first `shown` characters of the dialogue are on the screen. -/
partial def converse (env : Command.Environment) (args : List Text) (shown : Nat) :
    IO Command.Report := do
  let r := Command.call env args
  if isWaiting r then
    let out ← IO.getStdout
    out.putStr (String.ofList (r.dialogue.drop shown))
    out.flush
    let line ← (← IO.getStdin).getLine
    if line.isEmpty then return r
    let typed := line.toList.filter (· ≠ '\n')
    converse { env with typed := env.typed ++ [typed] } args (r.dialogue.length + typed.length + 1)
  else return r

/-- What a call that printed nothing tells about its end. -/
def complaint? : Command.Ending → Option Text
  | .usage => some "usage: subharvest [--verbose] (subs | log) COMMAND [ARGUMENTS]"
  | .unexpected p => some p.message
  | _ => none

end LinkHarvest

open LinkHarvest in
def main (args : List String) : IO UInt32 := do
  let args := args.map String.toList
  let files ← readFiles args
  let routes := (files.read routesPath).toOption.getD []
  let env : Command.Environment :=
    ⟨files, Http.Routes.ofContent routes, ← present, fun _ => none, []⟩
  let r ← converse env args 0
  writeFiles files r.files
  for p in r.printed do
    for line in p.lines do
      IO.println (String.ofList line)
  for message in (complaint? r.ending).toList do
    IO.eprintln (String.ofList message)
  return r.ending.exitCode.toUInt32
