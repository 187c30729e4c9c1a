import LinkHarvest.Text.Basic
import LinkHarvest.Text.CompositionTable

/-!
# Composed text

The canonical form of Unicode text in which a base and its marks are one character wherever such a
character exists. A text has this form when taking it apart and putting it together again gives
back the text.
-/

namespace LinkHarvest.Text

/-! ## Hangul syllables

A syllable is a leading consonant, a vowel and maybe a trailing consonant. The syllables are
numbered in the order of their parts. -/

def syllableParts? (n : Nat) : Option (List Nat) :=
  if 0xAC00 ≤ n ∧ n ≤ 0xD7A3 then
    let index := n - 0xAC00
    let first := [0x1100 + index / 588, 0x1161 + index % 588 / 28]
    some (if index % 28 = 0 then first else first ++ [0x11A7 + index % 28])
  else none

/-- The Hangul syllable of a leading consonant and a vowel, or of a syllable without a trailing
consonant and a trailing consonant. -/
def syllable? (a b : Nat) : Option Nat :=
  if 0x1100 ≤ a ∧ a ≤ 0x1112 ∧ 0x1161 ≤ b ∧ b ≤ 0x1175 then
    some (0xAC00 + (a - 0x1100) * 588 + (b - 0x1161) * 28)
  else if 0xAC00 ≤ a ∧ a ≤ 0xD7A3 ∧ (a - 0xAC00) % 28 = 0 ∧ 0x11A8 ≤ b ∧ b ≤ 0x11C2 then
    some (a + (b - 0x11A7))
  else none

/-! ## Taking apart -/

/-- Takes a composite apart if it stands at the head. -/
def opened (points : List Nat) (c : Composite) : List Nat :=
  match points with
  | n :: marks => if n = c.composite then c.base :: c.mark :: marks else points
  | [] => []

/-- A character as its base and marks. One pass over the composites is enough, since none has a
base that stands before it. -/
def decomposed (n : Nat) : List Nat :=
  match syllableParts? n with
  | some parts => parts
  | none => composites.foldl opened [n]

/-- The combining class of a character; that of a base is zero. -/
def combiningClass (n : Nat) : Nat :=
  match combiningClasses.find? fun k => inRanges k.2 n with
  | some (k, _) => k
  | none => 0

/-- Puts a mark behind the marks of no higher class; the characters are listed last first. -/
def placed (n : Nat) : List Nat → List Nat
  | [] => [n]
  | m :: before =>
    if 0 < combiningClass n ∧ combiningClass n < combiningClass m then m :: placed n before
    else n :: m :: before

/-- Sorts the marks after each base by their classes. -/
def ordered (points : List Nat) : List Nat :=
  (points.foldl (fun before n => placed n before) []).reverse

/-! ## Putting together -/

/-- The character that stands for a base and a mark. -/
def composite? (base mark : Nat) : Option Nat :=
  match syllable? base mark with
  | some n => some n
  | none => (composites.find? fun c => c.base == base && c.mark == mark).map (·.composite)

/-- Text that is being put together: the finished characters, last first, the base that still
takes marks, and the marks after it that it did not take, last first. -/
structure Composing where
  done : List Nat
  base : Option Nat
  marks : List Nat

def Composing.points (s : Composing) : List Nat := s.marks ++ s.base.toList ++ s.done

/-- Takes one more character. A mark reaches the base unless one of its own or a higher class
stands between them. -/
def Composing.take (s : Composing) (n : Nat) : Composing :=
  let k := combiningClass n
  let reaches :=
    match s.marks with
    | [] => true
    | m :: _ => combiningClass m < k
  match s.base.bind fun base => if reaches then composite? base n else none with
  | some c => { s with base := some c }
  | none =>
    if k = 0 then ⟨s.points, some n, []⟩
    else { s with marks := n :: s.marks }

def composed (points : List Nat) : List Nat :=
  (points.foldl Composing.take ⟨[], none, []⟩).points.reverse

def isComposed (t : Text) : Bool :=
  let points := t.map Char.toNat
  points.all (fun n => !inRanges neverComposedRanges n) &&
    composed (ordered (points.flatMap decomposed)) == points

end LinkHarvest.Text
