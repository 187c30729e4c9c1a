import LinkHarvest.Text.Basic
import LinkHarvest.Text.CaseTable

/-!
# Letter case

Lower and upper case of text, by the full case mappings of Unicode: a character may become
several, and a capital sigma at the end of a word becomes the final small sigma.
-/

namespace LinkHarvest.Text

/-- The image of a character under a case mapping given by runs and expansions. -/
def mapCase (runs : List CaseRun) (expansions : List (Nat × List Nat)) (c : Char) : Text :=
  match expansions.find? fun e => e.1 == c.toNat with
  | some (_, images) => images.map Char.ofNat
  | none =>
    match runs.findSome? fun r => r.image? c.toNat with
    | some n => [Char.ofNat n]
    | none => [c]

/-- The lower-case form of a character on its own. -/
def lowerChar (c : Char) : Text :=
  if c.toNat < 128 then [c.toLower] else mapCase lowerRuns lowerExpansions c

def upperChar (c : Char) : Text :=
  if c.toNat < 128 then [c.toUpper] else mapCase upperRuns upperExpansions c

/-- Whether the nearest character that case rules do not skip has a case. -/
def nextIsCased : Text → Bool
  | [] => false
  | c :: rest =>
    if inRanges caseIgnorableRanges c.toNat then nextIsCased rest
    else inRanges casedRanges c.toNat

/-- The lower-case form of a text, given the characters before it, nearest first. -/
def lowerAfter (seen : Text) : Text → Text
  | [] => []
  | c :: rest =>
    (if c = 'Σ' then (if nextIsCased seen && !nextIsCased rest then ['ς'] else ['σ'])
      else lowerChar c) ++ lowerAfter (c :: seen) rest

def lower (t : Text) : Text := lowerAfter [] t

def upper (t : Text) : Text := t.flatMap upperChar

end LinkHarvest.Text
