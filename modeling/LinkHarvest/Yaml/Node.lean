import LinkHarvest.Yaml.Tag
import LinkHarvest.Yaml.Tokens

/-!
# Nodes

A YAML document is a tree of scalars, sequences and mappings. An alias stands for the node that
carries its anchor. Inside that very node the alias would make the document contain itself, which no
tree does: there it stands for an empty collection of the same kind.
-/

namespace LinkHarvest.Yaml

/-- A part of a document. -/
inductive Node
  | scalar (tag : Tag) (t : LooseText)
  | sequence (tag : Tag) (items : List Node)
  | mapping (tag : Tag) (entries : List (Node × Node))

namespace Node

def tag : Node → Tag
  | .scalar tag _ => tag
  | .sequence tag _ => tag
  | .mapping tag _ => tag

/-- The node that stands where none is written. -/
def empty : Node := .scalar .null []

end Node

/-! ## Reading -/

/-- What is left of a text, the nodes with anchors so far, and the meanings of tag handles. While
the node of an anchor is being read, an empty node of its kind stands in for it. -/
structure Reading where
  tokens : List Token
  anchors : List (Text × Node)
  handles : List (Text × Text)

abbrev Reader (α : Type) := StateT Reading (Except Problem) α

namespace Reader

def peek : Reader Token := do
  match (← get).tokens with
  | [] => throw .malformed
  | .broken p :: _ => throw p
  | token :: _ => return token

def skip : Reader Unit := modify fun r => { r with tokens := r.tokens.drop 1 }

/-- Passes over the next token if it is the given one. -/
def skipIf (token : Token) : Reader Bool := do
  if (← peek) = token then
    skip
    return true
  else return false

def expect (token : Token) : Reader Unit := do
  if !(← skipIf token) then throw .malformed

/-- The properties of a node: its anchor and its tag, in either order. -/
structure Properties where
  anchor : Option Text := none
  tag : Option WrittenTag := none

def anchor : Reader (Option Text) := do
  match ← peek with
  | .anchor name =>
    skip
    return some name
  | _ => return none

def writtenTag : Reader (Option WrittenTag) := do
  match ← peek with
  | .tag t =>
    skip
    return some t
  | _ => return none

def properties : Reader Properties := do
  match ← anchor with
  | some name => return { anchor := some name, tag := ← writtenTag }
  | none =>
    match ← writtenTag with
    | some t => return { tag := some t, anchor := ← anchor }
    | none => return {}

/-- The full name of a tag; nothing for the tag that leaves the choice open. -/
def tagName (tag : Option WrittenTag) : Reader (Option Text) := do
  match tag with
  | none => return none
  | some ⟨none, suffix⟩ => return if suffix = ['!'] then none else some suffix
  | some ⟨some handle, suffix⟩ =>
    match (← get).handles.find? fun h => h.1 = handle with
    | none => throw .malformed
    | some (_, meaning) =>
      let name := meaning ++ suffix
      return if name = ['!'] then none else some name

def setAnchor (name : Option Text) (node : Node) : Reader Unit :=
  match name with
  | none => pure ()
  | some name => modify fun r => { r with anchors := (name, node) :: r.anchors }

/-- The node that an alias stands for. -/
def aliased (name : Text) : Reader Node := do
  match (← get).anchors.find? fun a => a.1 = name with
  | none => throw .malformed
  | some (_, node) => return node

def scalarTag (p : Properties) (name : Option Text) (plain : Bool) (t : LooseText) : Tag :=
  match name with
  | some name => .ofName name
  | none => if plain || p.tag.isSome then .ofPlain t.toText else .text

def collectionTag (name : Option Text) (usual : Tag) : Tag := (name.map Tag.ofName).getD usual

/-- The empty node of the kind that a token starts; only collections have nodes inside. -/
def outline (name : Option Text) : Token → Node
  | .openBrace | .blockMapping => .mapping (collectionTag name .mapping) []
  | _ => .sequence (collectionTag name .sequence) []

/-- Starts the node of an anchor, which is not in use yet. -/
def openAnchor (anchor name : Option Text) : Reader Unit := do
  match anchor with
  | none => return
  | some a =>
    if (← get).anchors.any fun entry => entry.1 = a then throw .malformed
    else setAnchor anchor (outline name (← peek))

/-- The node that stands where only properties are written. -/
def propertiesOnly (p : Properties) (name : Option Text) : Reader Node :=
  if p.anchor.isSome || p.tag.isSome then return .scalar (scalarTag p name true []) []
  else throw .malformed

mutual

/-- Reads a node. Outside of brackets it may be a block, and a sequence may stand in the column of
the key before it. Every step down uses up a unit of fuel. -/
def node : Nat → (block indentless : Bool) → Reader Node
  | 0, _, _ => throw .malformed
  | fuel + 1, block, indentless => do
    match ← peek with
    | .alias name =>
      skip
      aliased name
    | _ =>
      let p ← properties
      let name ← tagName p.tag
      openAnchor p.anchor name
      let result ← content fuel block indentless p name
      setAnchor p.anchor result
      return result

def content : Nat → (block indentless : Bool) → Properties → Option Text → Reader Node
  | 0, _, _, _, _ => throw .malformed
  | fuel + 1, block, indentless, p, name => do
    match ← peek with
    | .scalar plain t =>
      skip
      return .scalar (scalarTag p name plain t) t
    | .openBracket =>
      skip
      return .sequence (collectionTag name .sequence) (← flowItems fuel true)
    | .openBrace =>
      skip
      return .mapping (collectionTag name .mapping) (← flowEntries fuel true)
    | .blockSequence =>
      if block then
        skip
        return .sequence (collectionTag name .sequence) (← blockItems fuel)
      else propertiesOnly p name
    | .blockMapping =>
      if block then
        skip
        return .mapping (collectionTag name .mapping) (← blockEntries fuel)
      else propertiesOnly p name
    | .entry =>
      if indentless then return .sequence (collectionTag name .sequence) (← indentlessItems fuel)
      else propertiesOnly p name
    | _ => propertiesOnly p name

/-- Reads a node, unless one of the given tokens comes first. -/
def nodeUnless : Nat → (block indentless : Bool) → List Token → Reader Node
  | 0, _, _, _ => throw .malformed
  | fuel + 1, block, indentless, ends => do
    if ends.contains (← peek) then return .empty else node fuel block indentless

def blockItems : Nat → Reader (List Node)
  | 0 => throw .malformed
  | fuel + 1 => do
    if ← skipIf .entry then
      let item ← nodeUnless fuel true false [.entry, .blockEnd]
      return item :: (← blockItems fuel)
    else
      expect .blockEnd
      return []

/-- Reads the items of a sequence that is no block of its own. -/
def indentlessItems : Nat → Reader (List Node)
  | 0 => throw .malformed
  | fuel + 1 => do
    if ← skipIf .entry then
      let item ← nodeUnless fuel true false [.entry, .key, .value, .blockEnd]
      return item :: (← indentlessItems fuel)
    else return []

def blockEntries : Nat → Reader (List (Node × Node))
  | 0 => throw .malformed
  | fuel + 1 => do
    if ← skipIf .key then
      let key ← nodeUnless fuel true true [.key, .value, .blockEnd]
      let value ←
        if ← skipIf .value then nodeUnless fuel true true [.key, .value, .blockEnd]
        else pure .empty
      return (key, value) :: (← blockEntries fuel)
    else
      expect .blockEnd
      return []

/-- Reads a value between brackets, if its mark comes next. -/
def flowValue : Nat → Token → Reader Node
  | 0, _ => throw .malformed
  | fuel + 1, closing => do
    if ← skipIf .value then nodeUnless fuel false false [.comma, closing] else return .empty

/-- Reads the items between square brackets. -/
def flowItems : Nat → (first : Bool) → Reader (List Node)
  | 0, _ => throw .malformed
  | fuel + 1, first => do
    if ← skipIf .closeBracket then return []
    if !first then expect .comma
    if ← skipIf .key then
      let key ← nodeUnless fuel false false [.value, .comma, .closeBracket]
      let value ← flowValue fuel .closeBracket
      return .mapping .mapping [(key, value)] :: (← flowItems fuel false)
    else if ← skipIf .closeBracket then return []
    else
      let item ← node fuel false false
      return item :: (← flowItems fuel false)

def flowEntries : Nat → (first : Bool) → Reader (List (Node × Node))
  | 0, _ => throw .malformed
  | fuel + 1, first => do
    if ← skipIf .closeBrace then return []
    if !first then expect .comma
    if ← skipIf .key then
      let key ← nodeUnless fuel false false [.value, .comma, .closeBrace]
      let value ← flowValue fuel .closeBrace
      return (key, value) :: (← flowEntries fuel false)
    else if ← skipIf .closeBrace then return []
    else
      let key ← node fuel false false
      return (key, .empty) :: (← flowEntries fuel false)

end

/-! ## Documents -/

/-- The handles that every document knows. -/
def usualHandles : List (Text × Text) := [(['!'], ['!']), ("!!", Tag.common)]

/-- Reads the directives of a document; each may be given once. -/
def directives : Nat → (versionSeen : Bool) → List (Text × Text) → Reader (List (Text × Text))
  | 0, _, _ => throw .malformed
  | fuel + 1, versionSeen, seen => do
    match ← peek with
    | .directive (.version major) =>
      skip
      if versionSeen || major ≠ 1 then throw .malformed
      directives fuel true seen
    | .directive (.handle name meaning) =>
      skip
      if seen.any fun h => h.1 = name then throw .malformed
      directives fuel versionSeen ((name, meaning) :: seen)
    | .directive .other =>
      skip
      directives fuel versionSeen seen
    | _ => return seen

/-- Whether a document has no root: its content is missing. -/
def lacksContent : Token → Bool
  | .directive _ | .documentStart | .documentEnd | .finish => true
  | _ => false

/-- Reads the document of a text, which may hold one at most. -/
def document : Reader (Option Node) := do
  let fuel := 4 * (← get).tokens.length + 4
  match ← peek with
  | .finish => return none
  | token =>
    let isExplicit := match token with
      | .directive _ | .documentStart => true
      | _ => false
    let root ←
      if isExplicit then do
        let handles ← directives fuel false []
        expect .documentStart
        modify fun r => { r with handles := handles ++ usualHandles }
        if lacksContent (← peek) then pure .empty else node fuel true false
      else node fuel true false
    modify fun r => { r with tokens := r.tokens.dropWhile (· = .documentEnd) }
    expect .finish
    return some root

end Reader

/-- The root of a document; an empty text has none. -/
def Node.ofText (t : Text) : Except Problem (Option Node) :=
  (Reader.document.run ⟨tokens t, [], Reader.usualHandles⟩).map (·.1)

end LinkHarvest.Yaml
