import LinkHarvest.Data.Value
import LinkHarvest.Yaml.Problem

/-!
# Moments in YAML

A scalar that is a day, or a day with a time and perhaps a distance from universal time. Whether
there is such a day or time shows only when the moment is built.
-/

namespace LinkHarvest.Yaml

/-- A time of day as it is written. The zone is in seconds. -/
structure WrittenTime where
  hour : Nat
  minute : Nat
  second : Nat
  fraction : Text
  zone : Option Int
  deriving DecidableEq, Repr

/-- A moment as it is written; `isPadded` says that month and day have two digits. -/
structure Moment where
  date : Date
  isPadded : Bool
  time : Option WrittenTime
  deriving DecidableEq, Repr

namespace Moment

/-- Reads one or two digits, and says how many. -/
def shortNumber? (t : Text) : Option (Nat × Nat × Text) :=
  match Timestamp.digits? 2 t with
  | some (n, rest) => some (n, 2, rest)
  | none => (Timestamp.digits? 1 t).map fun (n, rest) => (n, 1, rest)

/-- Whether a character is white space within a moment. -/
def isSpace (c : Char) : Bool := c == ' ' || c == '\t'

/-- Reads what separates a time from its day. -/
def separator? (t : Text) : Option Text :=
  match t with
  | 'T' :: rest => some rest
  | 't' :: rest => some rest
  | c :: _ => if isSpace c then some (t.dropWhile isSpace) else none
  | [] => none

/-- Reads the minutes of a zone, which may be left out. -/
def zoneMinutes? (t : Text) : Option Nat :=
  if t.isEmpty then some 0
  else do
    let (minutes, rest) ← Timestamp.digits? 2 (← Timestamp.mark? ':' t)
    guard rest.isEmpty
    return minutes

/-- Reads a zone; an empty text stands for none. -/
def zone? (t : Text) : Option (Option Int) :=
  if t.isEmpty then some none
  else
    match t.dropWhile isSpace with
    | ['Z'] => some (some 0)
    | sign :: rest => do
      guard (sign = '+' ∨ sign = '-')
      let (hours, _, rest) ← shortNumber? rest
      let minutes ← zoneMinutes? rest
      let seconds : Int := (hours * 60 + minutes) * 60
      return some (if sign = '-' then -seconds else seconds)
    | [] => none

/-- Reads the digits of a fraction and what follows them. -/
def fraction (t : Text) : Text × Text :=
  match t with
  | '.' :: rest => (rest.takeWhile Char.isDigit, rest.dropWhile Char.isDigit)
  | _ => ([], t)

def time? (t : Text) : Option WrittenTime := do
  let (hour, _, t) ← shortNumber? t
  let (minute, t) ← Timestamp.digits? 2 (← Timestamp.mark? ':' t)
  let (second, t) ← Timestamp.digits? 2 (← Timestamp.mark? ':' t)
  let (fraction, t) := fraction t
  return ⟨hour, minute, second, fraction, ← zone? t⟩

def read? (t : Text) : Option Moment := do
  let (year, t) ← Timestamp.digits? 4 t
  let (month, monthDigits, t) ← shortNumber? (← Timestamp.mark? '-' t)
  let (day, dayDigits, t) ← shortNumber? (← Timestamp.mark? '-' t)
  let isPadded := monthDigits == 2 && dayDigits == 2
  if t.isEmpty then return ⟨⟨year, month, day⟩, isPadded, none⟩
  else return ⟨⟨year, month, day⟩, isPadded, ← time? (← separator? t)⟩

/-- Whether a plain scalar is taken for a moment: a day alone has to be written in full. -/
def isPlain (t : Text) : Bool :=
  match read? t with
  | some m => m.isPadded || m.time.isSome
  | none => false

/-- The microseconds of a fraction, of which six digits count. -/
def micros (fraction : Text) : Nat :=
  Text.ofDigits 10 (((fraction ++ List.replicate 6 '0').take 6).filterMap Text.digit?)

/-- A zone, which has to be less than a day. -/
def checkZone (zone : Option Int) : Except Problem (Option Int) :=
  match zone with
  | some seconds => if seconds.natAbs < 86400 then .ok zone else .error (.zone seconds)
  | none => .ok none

def value (m : Moment) : Except Problem Value :=
  match m.time with
  | none =>
    match m.date.problem? with
    | some reason => .error (.moment reason)
    | none => .ok (.date m.date)
  | some t =>
    match checkZone t.zone with
    | .error p => .error p
    | .ok zone =>
      let dateTime : DateTime := ⟨m.date, ⟨t.hour, t.minute, t.second, micros t.fraction⟩⟩
      match dateTime.problem? with
      | some reason => .error (.moment reason)
      | none => .ok (.time ⟨dateTime, zone.map (· * 1000000)⟩)

end Moment

end LinkHarvest.Yaml
