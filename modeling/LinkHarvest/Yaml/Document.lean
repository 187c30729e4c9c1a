import LinkHarvest.Number.Arithmetic
import LinkHarvest.Number.Decimal
import LinkHarvest.Text.Base64
import LinkHarvest.Yaml.Node

/-!
# The value of a YAML document

Every node stands for a value. What is wrong with the nodes of a document is found level by level,
from the root on, so of two faults the one nearer to the root is reported.
-/

namespace LinkHarvest.Yaml

/-! ## Scalars -/

def withoutLines (t : LooseText) : LooseText := t.filter (· ≠ .char '_')

/-- The sign of a numeral and what follows it; a numeral is not empty. -/
def numeralSign (t : Text) : Except Problem (Bool × Text) :=
  match t with
  | [] => .error .noDigits
  | _ => .ok (Integer.sign t)

/-- The number that parts between colons write, each of them counting sixty times the next. -/
def sixtiesInteger (parts : List Text) : Except Integer.Problem Int :=
  parts.foldlM (fun n part => (Integer.read part).map (n * 60 + ·)) 0

def unsignedInteger (t : Text) : Except Problem Int :=
  let read :=
    match t with
    | '0' :: 'b' :: rest => Integer.readIn 2 rest
    | '0' :: 'x' :: rest => Integer.readIn 16 rest
    | '0' :: _ => Integer.readIn 8 t
    | _ => if t.contains ':' then sixtiesInteger (Text.split ':' t) else Integer.read t
  read.mapError .integer

/-- Reads an integer: binary, octal or hexadecimal behind a zero, or in parts of sixty. -/
def integerValue (t : Text) : Except Problem Int := do
  let (negative, numeral) ← numeralSign t
  if numeral.isEmpty then throw .noDigits
  let n ← unsignedInteger numeral
  return if negative then -n else n

def numberPart (t : Text) : Except Problem Binary64 :=
  match Decimal.read? (Integer.trimMargins t) with
  | some x => .ok x
  | none => .error (.number t)

/-- The number that parts of sixty write, last part first, when the last part counts `unit`. What
a part counts has to be within the range of numbers with a point. -/
def sixtiesNumber (unit : Nat) (sum : Binary64) : List Binary64 → Except Problem Binary64
  | [] => .ok sum
  | x :: rest =>
    if (Binary64.ofInt unit).isFinite then
      sixtiesNumber (unit * 60) (sum.add (x.mul (.ofInt unit))) rest
    else .error .unitSize

def floatValue (t : Text) : Except Problem Binary64 := do
  let (negative, numeral) ← numeralSign (t.map Char.toLower)
  let x ←
    if numeral = ".inf".toList then pure (.infinite false)
    else if numeral = ".nan".toList then pure .nan
    else if numeral.contains ':' then do
      let parts ← (Text.split ':' numeral).mapM numberPart
      sixtiesNumber 1 (.finite false 0 Binary64.minExponent) parts.reverse
    else numberPart numeral
  return if negative then x.negate else x

/-- The bytes of a text in base64. Characters that are no digits are passed over; the text ends
where padding completes a group. -/
def lenientDigits (pads : Nat) (digits : List Nat) : Text → Option (List Nat)
  | [] => if digits.length % 4 = 0 then some digits.reverse else none
  | c :: rest =>
    if c = '=' then
      let place := digits.length % 4
      if 2 ≤ place then
        if 4 ≤ place + pads + 1 then some digits.reverse else lenientDigits (pads + 1) digits rest
      else lenientDigits pads digits rest
    else
      match Base64.Alphabet.standard.value? c with
      | some n => lenientDigits 0 (n :: digits) rest
      | none => lenientDigits pads digits rest

def binaryValue (t : LooseText) : Except Problem Value :=
  match t.toText? with
  | none => .error .malformed
  | some t =>
    if !Text.isAscii t then .error .malformed
    else
      match lenientDigits 0 [] t with
      | some digits => .ok (.bytes (Base64.bytesOf digits))
      | none => .error .malformed

def boolValue (t : Text) : Except Problem Value :=
  let word := String.ofList (t.map Char.toLower)
  if ["yes", "true", "on"].contains word then .ok (.bool true)
  else if ["no", "false", "off"].contains word then .ok (.bool false)
  else .error (.truthValue (t.map Char.toLower))

def momentValue (t : Text) : Except Problem Value :=
  match Moment.read? t with
  | some m => m.value
  | none => .error .notATime

def scalarValue (tag : Tag) (t : LooseText) : Except Problem Value :=
  match tag with
  | .null => .ok .null
  | .bool => boolValue t.toText
  | .int => (integerValue (withoutLines t).toText).map .int
  | .float => (floatValue (withoutLines t).toText).map .float
  | .moment => momentValue t.toText
  | .text => .ok (.text t)
  | .binary => binaryValue t
  | _ => .error .malformed

/-! ## Default values

A mapping that is tagged as a scalar stands for what it holds under the mark of a default value.
-/

mutual

/-- The text that stands for a node, if there is one. -/
def Node.scalarText? : Node → Option LooseText
  | .scalar _ t => some t
  | .sequence .. => none
  | .mapping _ entries => markedText? entries

/-- The text under the first mark of a default value. -/
def markedText? : List (Node × Node) → Option LooseText
  | [] => none
  | (k, v) :: rest => if k.tag = .value then v.scalarText? else markedText? rest

end

/-- The value of a mapping that is tagged as a scalar. A moment is looked for in the mapping itself,
which is no text. -/
def markedValue (tag : Tag) (entries : List (Node × Node)) : Except Problem Value :=
  match markedText? entries with
  | none => .error .malformed
  | some t => if tag = .moment then .error .notAText else scalarValue tag t

/-! ## Trees -/

/-- A problem, and how far from the root it is. -/
structure Fault where
  depth : Nat
  problem : Problem

/-- A value, and what is wrong with the nodes below. -/
abbrev Built (α : Type) := α × List Fault

/-- A value without faults, or a fault with a value that stands in for it. -/
def builtOr (depth : Nat) (default : α) : Except Problem α → Built α
  | .ok a => (a, [])
  | .error p => (default, [⟨depth, p⟩])

/-- Whether a node becomes a value that cannot be a key. -/
def Node.isCollection (n : Node) : Bool :=
  match n.tag with
  | .sequence | .mapping | .set | .pairs => true
  | _ => false

/-- The faults of a key: its own, or that it is no scalar. -/
def keyFaults (depth : Nat) (key : Node) (faults : List Fault) : List Fault :=
  if key.isCollection then [⟨depth, .malformed⟩] else faults

/-- The text of a key that is the mark of a default value; as a key it stands for itself. -/
def valueMark? (key : Node) : Option LooseText :=
  if key.tag = .value then key.scalarText? else none

/-- A mapping from entries, later ones replacing earlier ones. -/
def mappingOf (entries : List (Value × Value)) : List (Value × Value) :=
  entries.foldl (fun m e => Value.put m e.1 e.2) []

/-- The entries that a mapping takes over from others and its own ones, put together. -/
def together (parts : List (Value × Value) × List (Value × Value) × List Fault) :
    Built (List (Value × Value)) :=
  (parts.1 ++ parts.2.1, parts.2.2)

mutual

/-- The value of a node. Depth counts in steps of two: merging goes before everything else. -/
def built (depth : Nat) : Node → Built Value
  | .scalar tag t => builtOr depth .null (scalarValue tag t)
  | .sequence tag items =>
    match tag with
    | .sequence =>
      let (values, faults) := allBuilt (depth + 2) items
      (.list values, faults)
    | .pairs =>
      let (values, faults) := pairsBuilt (depth + 2) items
      (.list values, faults)
    | .mapping | .set => (.null, [⟨depth + 2, .malformed⟩])
    | _ => (.null, [⟨depth, .malformed⟩])
  | .mapping tag entries =>
    match tag with
    | .mapping =>
      let (values, faults) := together (entriesApart (depth + 2) entries)
      (.map (mappingOf values), faults)
    | .set =>
      let (values, faults) := together (entriesApart (depth + 2) entries)
      (.set ((mappingOf values).map (·.1)), faults)
    | .sequence | .pairs => (.null, [⟨depth + 2, .malformed⟩])
    | _ => builtOr depth .null (markedValue tag entries)

def allBuilt (depth : Nat) : List Node → Built (List Value)
  | [] => ([], [])
  | n :: rest =>
    let (v, faults) := built depth n
    let (vs, more) := allBuilt depth rest
    (v :: vs, faults ++ more)

/-- The values of mappings with one entry each, as pairs. -/
def pairsBuilt (depth : Nat) : List Node → Built (List Value)
  | [] => ([], [])
  | .mapping _ [(k, v)] :: rest =>
    let (key, keyFaults) := built depth k
    let (value, valueFaults) := built depth v
    let (vs, more) := pairsBuilt depth rest
    (.tuple [key, value] :: vs, keyFaults ++ valueFaults ++ more)
  | _ :: _ => ([], [⟨depth, .malformed⟩])

/-- The entries of a mapping, apart from those that it takes over from others. -/
def entriesApart (depth : Nat) :
    List (Node × Node) → List (Value × Value) × List (Value × Value) × List Fault
  | [] => ([], [], [])
  | (k, v) :: rest =>
    let (merged, own, more) := entriesApart depth rest
    if k.tag = .merge then
      let (taken, faults) := takenBuilt depth v
      (taken ++ merged, own, faults ++ more)
    else
      let (key, faults) :=
        match valueMark? k with
        | some t => (.text t, [])
        | none => built depth k
      let (value, valueFaults) := built depth v
      (merged, (key, value) :: own, keyFaults depth k faults ++ valueFaults ++ more)

/-- The entries that a mapping takes over from a node. -/
def takenBuilt (depth : Nat) : Node → Built (List (Value × Value))
  | .mapping _ entries =>
    together (entriesApart depth entries)
  | .sequence _ items => takenFromAll depth items
  | .scalar .. => ([], [⟨depth - 1, .malformed⟩])

/-- The entries that a mapping takes over from several nodes; the first of them comes last, so
that it stands. -/
def takenFromAll (depth : Nat) : List Node → Built (List (Value × Value))
  | [] => ([], [])
  | .mapping _ entries :: rest =>
    let (values, faults) := together (entriesApart depth entries)
    let (taken, more) := takenFromAll depth rest
    (taken ++ values, faults ++ more)
  | _ :: _ => ([], [⟨depth - 1, .malformed⟩])

end

def firstFault : List Fault → Option Fault
  | [] => none
  | f :: rest =>
    match firstFault rest with
    | none => some f
    | some g => if f.depth ≤ g.depth then some f else some g

def Node.value (n : Node) : Except Problem Value :=
  let (v, faults) := built 0 n
  match firstFault faults with
  | none => .ok v
  | some f => .error f.problem

/-- The value of a text; an empty text stands for null. -/
def read (t : Text) : Except Problem Value := do
  match ← Node.ofText t with
  | none => return .null
  | some n => n.value

end LinkHarvest.Yaml
