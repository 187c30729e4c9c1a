import LinkHarvest.Text.Basic

/-!
# Loose text

A `\u` escape can write half of a surrogate pair without the other half. Text read from such
escapes is a list of code points, of which all but the unpaired halves are characters.
-/

namespace LinkHarvest

/-- A character, or half of a surrogate pair that stands alone. -/
inductive CodePoint
  | char (c : Char)
  | half (code : Nat)
  deriving DecidableEq, Repr

/-- Text that may hold unpaired halves of surrogate pairs. -/
abbrev LooseText := List CodePoint

namespace LooseText

def ofText (t : Text) : LooseText := t.map .char

/-- The text itself, if it holds characters only. -/
def toText? (t : LooseText) : Option Text :=
  t.mapM fun
    | .char c => some c
    | .half _ => none

/-- The text with a replacement character for every unpaired half. Settings are read as such text:
where a text of theirs has an unpaired half, the replacement character stands for it. -/
def toText (t : LooseText) : Text :=
  t.map fun
    | .char c => c
    | .half _ => '\uFFFD'

end LooseText

instance : Coe Text LooseText := ⟨LooseText.ofText⟩

end LinkHarvest
