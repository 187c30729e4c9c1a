import LinkHarvest.Http.HostCharacter
import LinkHarvest.Text.Composition
import LinkHarvest.Text.Punycode
import LinkHarvest.Text.Quoted

/-!
# Internationalised host names

A host name is a list of labels between dots. Servers know a label with other characters than ASCII
by its encoding, which starts with `xn--`. Not every text is a label: the rules ask for composed
text, for hyphens, marks and joiners in their places, and for one direction of writing.
-/

namespace LinkHarvest.Http.HostName

/-- Why a text is not a host name. Positions count from one. -/
inductive Problem
  | emptyName
  | nameTooLong
  | emptyLabel
  | labelTooLong
  | notComposed
  | innerHyphens
  | outerHyphen
  | leadingMark
  | character (c : Char) (position : Nat) (label : Text)
  | joiner (c : Char) (position : Nat) (label : Text)
  | neighbours (c : Char) (position : Nat) (label : Text)
  | firstDirection (label : Text)
  | rightToLeft (position : Nat)
  | leftToRight (position : Nat)
  | mixedDigits
  | lastDirection
  | emptyEncoding
  | endOfEncoding
  | encoding
  deriving DecidableEq, Repr

def codeNotation (c : Char) : Text :=
  let digits := (Nat.toDigits 16 c.toNat).map Char.toUpper
  "U+" ++ List.replicate (4 - digits.length) '0' ++ digits

def Problem.message : Problem → Text
  | .emptyName => "Empty domain"
  | .nameTooLong => "Domain too long"
  | .emptyLabel => "Empty Label"
  | .labelTooLong => "Label too long"
  | .notComposed => "Label must be in Normalization Form C"
  | .innerHyphens => "Label has disallowed hyphens in 3rd and 4th position"
  | .outerHyphen => "Label must not start or end with a hyphen"
  | .leadingMark => "Label begins with an illegal combining character"
  | .character c position label =>
    Text.concat ["Codepoint ", codeNotation c, " at position ", Text.ofNat position, " of ",
      Text.quoted label, " not allowed"]
  | .joiner c position label =>
    Text.concat ["Unknown codepoint adjacent to joiner ", codeNotation c, " at position ",
      Text.ofNat position, " in ", Text.quoted label]
  | .neighbours c position label =>
    Text.concat ["Codepoint ", codeNotation c, " not allowed at position ", Text.ofNat position,
      " in ", Text.quoted label]
  | .firstDirection label =>
    Text.concat ["First codepoint in label ", Text.quoted label,
      " must be directionality L, R or AL"]
  | .rightToLeft position =>
    Text.concat ["Invalid direction for codepoint at position ", Text.ofNat position,
      " in a right-to-left label"]
  | .leftToRight position =>
    Text.concat ["Invalid direction for codepoint at position ", Text.ofNat position,
      " in a left-to-right label"]
  | .mixedDigits => "Can not mix numeral types in a right-to-left label"
  | .lastDirection => "Label ends with illegal codepoint directionality"
  | .emptyEncoding => "Malformed A-label, no Punycode eligible content found"
  | .endOfEncoding => "A-label must not end with a hyphen"
  | .encoding => "Invalid A-label"

/-! ## Characters in their places -/

/-- Whether the character before, if any, suppresses the vowel of its letter. -/
def afterVirama (before : Text) : Bool := before.head?.any fun c => Text.combiningClass c.toNat == 9

/-- Whether the nearest character that joining does not look through has a property. -/
def nearest (p : Char → Bool) (t : Text) : Bool := (t.find? fun c => !isTransparent c).any p

/-- Whether a joiner may stand between the characters before it, nearest first, and those after
it. -/
def joinerFits (c : Char) (before after : Text) : Bool :=
  afterVirama before ||
    c == '\u200C' && nearest joinsNext before && nearest joinsPrevious after

/-- Whether a digit is one of the Arabic ones, which do not mix with the extended ones. -/
def isArabicDigit (c : Char) : Bool := 0x660 ≤ c.toNat && c.toNat ≤ 0x669

/-- Whether a digit is one of the extended Arabic ones. -/
def isExtendedArabicDigit (c : Char) : Bool := 0x6F0 ≤ c.toNat && c.toNat ≤ 0x6F9

/-- Whether a label with this character is subject to a rule about the characters around it. -/
def isContextual (c : Char) : Bool :=
  ['\u00B7', '\u0375', '\u05F3', '\u05F4', '\u30FB'].contains c || isArabicDigit c ||
    isExtendedArabicDigit c

/-- Whether a contextual character may stand between the characters before it, nearest first, and
those after it. -/
def contextFits (c : Char) (before after : Text) : Bool :=
  let others := before ++ after
  if c = '\u00B7' then before.head? == some 'l' && after.head? == some 'l'
  else if c = '\u0375' then after.head?.any fun d => Text.inRanges greekRanges d.toNat
  else if c = '\u05F3' ∨ c = '\u05F4' then
    before.head?.any fun d => Text.inRanges hebrewRanges d.toNat
  else if c = '\u30FB' then others.any fun d => Text.inRanges japaneseRanges d.toNat
  else if isArabicDigit c then !others.any isExtendedArabicDigit
  else !others.any isArabicDigit

/-- Checks the characters of a label from `before` on, which holds those that are checked, nearest
first. -/
def checkCharacters (label before : Text) : Text → Except Problem Unit
  | [] => .ok ()
  | c :: after =>
    let position := before.length + 1
    if isLetter c then checkCharacters label (c :: before) after
    else if c = '\u200C' ∨ c = '\u200D' then
      if joinerFits c before after then checkCharacters label (c :: before) after
      else .error (.joiner c position label)
    else if isContextual c then
      if contextFits c before after then checkCharacters label (c :: before) after
      else .error (.neighbours c position label)
    else .error (.character c position label)

/-! ## Direction -/

/-- Whether a label with this direction is written from right to left. -/
def Direction.isReversed : Direction → Bool
  | .right | .arabic | .arabicDigit => true
  | _ => false

/-- The directions in which a label can end, nonspacing marks apart. -/
def Direction.canEnd (reversed : Bool) : Direction → Bool
  | .europeanDigit => true
  | .left => !reversed
  | .right | .arabic | .arabicDigit => reversed
  | _ => false

/-- Checks the directions of a label that is written from right to left. `digits` is the kind of
digit seen before `position`. -/
def checkReversed (position : Nat) (digits : Option Direction) :
    List Direction → Except Problem Unit
  | [] => .ok ()
  | d :: rest =>
    if d = .left then .error (.rightToLeft position)
    else if d = .arabicDigit ∨ d = .europeanDigit then
      if digits.any (· ≠ d) then .error .mixedDigits
      else checkReversed (position + 1) (some d) rest
    else checkReversed (position + 1) digits rest

/-- Checks the directions of a label that is written from left to right. -/
def checkForward (position : Nat) : List Direction → Except Problem Unit
  | [] => .ok ()
  | d :: rest =>
    if d.isReversed then .error (.leftToRight position) else checkForward (position + 1) rest

/-- Checks the direction at the end of a label. -/
def checkEnd (reversed : Bool) (directions : List Direction) : Except Problem Unit :=
  if (directions.reverse.find? (· ≠ .nonspacing)).any (Direction.canEnd reversed) then .ok ()
  else .error .lastDirection

/-- Checks that a label is written in one direction. A label without a character that is written
from right to left is not subject to this. -/
def checkDirection (label : Text) : Except Problem Unit := do
  let directions := label.map direction
  if directions.any Direction.isReversed then
    match directions.head? with
    | some .right | some .arabic =>
      checkReversed 1 none directions
      checkEnd true directions
    | some .left =>
      checkForward 1 directions
      checkEnd false directions
    | _ => .error (.firstDirection label)

/-! ## Labels -/

/-- The greatest length of a name that ends in a dot. -/
def nameLimit : Nat := 254

/-- The greatest length of a label as servers know it. -/
def labelLimit : Nat := 63

/-- Checks that a text is a label as people read it. -/
def checkLabel (label : Text) : Except Problem Unit := do
  if label.isEmpty then throw .emptyLabel
  if nameLimit < label.length then throw .labelTooLong
  if !Text.isComposed label then throw .notComposed
  if (label.drop 2).take 2 = ['-', '-'] then throw .innerHyphens
  if label.head? = some '-' ∨ label.getLast? = some '-' then throw .outerHyphen
  if label.head?.any isMark then throw .leadingMark
  checkCharacters label [] label
  checkDirection label

def encodedStart : Text := "xn--"

def decodeLabel (label : Text) : Except Problem Text := do
  if !label.isAscii then
    checkLabel label
    return label
  let label : Text := label.map Char.toLower
  if label.startsWith encodedStart then
    let encoded : Text := label.drop encodedStart.length
    if encoded.isEmpty then throw .emptyEncoding
    if encoded.endsWith ['-'] then throw .endOfEncoding
    match Text.Punycode.decode? encoded with
    | some decoded =>
      checkLabel decoded
      return decoded
    | none => throw .encoding
  else
    checkLabel label
    return label

def encodeLabel (label : Text) : Except Problem Text := do
  let encoded ←
    if label.isAscii then
      let _ ← decodeLabel label
      pure label
    else
      checkLabel label
      pure (encodedStart ++ Text.Punycode.encode label)
  if labelLimit < encoded.length then throw .labelTooLong
  return encoded

/-! ## Names -/

def isDot (c : Char) : Bool := ['.', '\u3002', '\uFF0E', '\uFF61'].contains c

/-- The labels of a name, and whether the name ends in a dot. -/
def labels (name : Text) : Except Problem (List Text × Bool) :=
  let pieces := Text.split '.' (name.map fun c => if isDot c then '.' else c)
  if nameLimit < name.length then .error .nameTooLong
  else if name.isEmpty then .error .emptyName
  else if pieces.getLast? = some [] then .ok (pieces.dropLast, true)
  else .ok (pieces, false)

def ofLabels (pieces : List Text) (endsInDot : Bool) : Text :=
  Text.joined ['.'] (if endsInDot then pieces ++ [[]] else pieces)

def encode (name : Text) : Except Problem Text := do
  let (pieces, endsInDot) ← labels name
  let encoded := ofLabels (← pieces.mapM encodeLabel) endsInDot
  if (if endsInDot then nameLimit else nameLimit - 1) < encoded.length then throw .nameTooLong
  return encoded

def decode (name : Text) : Except Problem Text := do
  let (pieces, endsInDot) ← labels name
  return ofLabels (← pieces.mapM decodeLabel) endsInDot

end LinkHarvest.Http.HostName
