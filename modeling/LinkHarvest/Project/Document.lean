import LinkHarvest.Files.Tree
import LinkHarvest.Json.Reader
import LinkHarvest.Json.Writer
import LinkHarvest.Text.Lines
import LinkHarvest.Yaml.Document
import LinkHarvest.Yaml.Writer

/-!
# Document files

A document file holds one mapping, as YAML or as JSON. The name of the file decides which.
-/

namespace LinkHarvest.Project

/-- The languages of document files. -/
inductive Language
  | json
  | yaml
  deriving DecidableEq, Repr

def languageOf (path : FilePath) : Language :=
  if path.suffix = ".yaml".toList ∨ path.suffix = ".yml".toList then .yaml else .json

/-- Why a document file cannot be read. -/
inductive DocumentProblem
  | file (problem : FileProblem)
  | encoding (problem : Utf8.Problem)
  | json (problem : Json.Problem)
  | yaml (problem : Yaml.Problem)
  | noMapping (path : FilePath)
  deriving DecidableEq, Repr

def DocumentProblem.message : DocumentProblem → Text
  | .file p => p.message
  | .encoding p => p.message
  | .json p => p.message
  | .yaml p => p.message
  | .noMapping path => "Configuration file must contain a mapping: " ++ path.text

/-- Whether the content of the file is to blame. What a scalar is tagged as may be wrong in ways
that no reader of configurations expects. -/
def DocumentProblem.isContent : DocumentProblem → Bool
  | .file p => p.fault == .nullCharacter
  | .yaml p =>
    match p with
    | .codePointSize | .truthValue _ | .noDigits | .notATime | .notAText | .unitSize => false
    | _ => true
  | _ => true

/-- The document that a text writes. A YAML document that counts as false is an empty mapping. -/
def documentOf (language : Language) (t : Text) : Except DocumentProblem Value :=
  match language with
  | .json => (Json.read t).mapError .json
  | .yaml =>
    match Yaml.read t with
    | .ok v => .ok (if v.isTruthy then v else .map [])
    | .error p => .error (.yaml p)

def readDocument (files : Files) (path : FilePath) :
    Except DocumentProblem (List (Value × Value)) := do
  let content ← (files.read path).mapError .file
  let t ← (Utf8.decode content).mapError .encoding
  match ← documentOf (languageOf path) (Text.withLineFeeds t) with
  | .map entries => return entries
  | _ => throw (.noMapping path)

def documentText (language : Language) (entries : List (Value × Value)) : Text :=
  match language with
  | .json => Json.write (.map entries)
  | .yaml => Yaml.write (.map entries)

def writeDocument (files : Files) (path : FilePath) (entries : List (Value × Value)) :
    Except FileProblem Files :=
  files.write path (Utf8.encode (documentText (languageOf path) entries))

end LinkHarvest.Project
