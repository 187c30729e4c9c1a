import LinkHarvest.Time.Calendar

/-!
# Instants

A timestamp is a date and time with or without an offset from universal time; without one it is
read as universal time. An instant is a point of time in the years 1 to 9999. Its text has a fixed
width up to the seconds, so that texts order as the instants do.
-/

namespace LinkHarvest

/-- A point of time, in microseconds since the beginning of the year 1 in universal time. -/
structure Instant where
  micros : Nat
  deriving DecidableEq, Repr

/-- A date and time with an optional offset from universal time, in microseconds. -/
structure Timestamp where
  dateTime : DateTime
  offset : Option Int
  deriving DecidableEq, Repr

namespace Instant

/-- The first microsecond after the year 9999. -/
def limit : Nat := 3652059 * DateTime.microsPerDay

/-- The instant of a timestamp; nothing when it lies outside the years 1 to 9999. -/
def ofTimestamp? (t : Timestamp) : Option Instant :=
  let n : Int := (t.dateTime.micros : Int) - t.offset.getD 0
  if 0 ≤ n ∧ n < limit then some ⟨n.toNat⟩ else none

/-- The timestamp of an instant in universal time. -/
def timestamp (i : Instant) : Timestamp := ⟨DateTime.ofMicros i.micros, some 0⟩

/-- The text of an instant, as it is stored and shown. -/
def text (i : Instant) : Text := (DateTime.ofMicros i.micros).text 'T' ++ "+00:00"

end Instant

namespace Timestamp

/-- The offset as `+HH:MM`, with seconds and microseconds when there are any. -/
def offsetText (offset : Int) : Text :=
  let t := TimeOfDay.ofMicros offset.natAbs
  [if offset < 0 then '-' else '+'] ++ Text.padded 2 t.hour ++ [':'] ++ Text.padded 2 t.minute ++
    (if t.second = 0 ∧ t.micro = 0 then [] else ':' :: Text.padded 2 t.second) ++
    (if t.micro = 0 then [] else '.' :: Text.padded 6 t.micro)

/-- The text of a timestamp, with `sep` between date and time. -/
def text (sep : Char) (t : Timestamp) : Text :=
  t.dateTime.text sep ++ (t.offset.map offsetText).getD []

/-- The date and time to the second, as tables show it; the year is not filled up. -/
def shown (t : Timestamp) : Text :=
  let d := t.dateTime.date
  let c := t.dateTime.time
  Text.concat [Text.ofNat d.year, "-", Text.padded 2 d.month, "-", Text.padded 2 d.day, " ",
    Text.padded 2 c.hour, ":", Text.padded 2 c.minute, ":", Text.padded 2 c.second]

/-! ## Reading -/

def digits? (n : Nat) (t : Text) : Option (Nat × Text) :=
  if t.length < n then none
  else do return (Text.ofDigits 10 (← (t.take n).mapM Text.digit?), t.drop n)

def mark? (c : Char) : Text → Option Text
  | [] => none
  | d :: rest => if d = c then some rest else none

/-- Reads a fraction of a second, of which six digits count. -/
def fraction (t : Text) : Nat × Text :=
  match t with
  | '.' :: rest =>
    let digits := rest.takeWhile Char.isDigit
    let six := (digits ++ List.replicate 6 '0').take 6
    (Text.ofDigits 10 (six.filterMap Text.digit?), rest.dropWhile Char.isDigit)
  | _ => (0, t)

/-- Reads the seconds of an offset, which may be left out, as microseconds. -/
def offsetSeconds? (t : Text) : Option Nat :=
  if t.isEmpty then some 0
  else do
    let (seconds, rest) ← digits? 2 (← mark? ':' t)
    let (micros, rest) := fraction rest
    guard rest.isEmpty
    return seconds * 1000000 + micros

/-- Reads an offset; an empty text stands for none. -/
def offset? (t : Text) : Option (Option Int) :=
  match t with
  | [] => some none
  | ['Z'] => some (some 0)
  | sign :: rest => do
    guard (sign = '+' ∨ sign = '-')
    let (hours, rest) ← digits? 2 rest
    let (minutes, rest) ← digits? 2 (← mark? ':' rest)
    let micros ← offsetSeconds? rest
    let n : Int := ((hours * 60 + minutes) * 60000000 + micros : Nat)
    return some (if sign = '-' then -n else n)

/-- Reads `YYYY-MM-DDTHH:MM:SS`, with an optional fraction and offset. -/
def read? (t : Text) : Option Timestamp := do
  let (year, t) ← digits? 4 t
  let (month, t) ← digits? 2 (← mark? '-' t)
  let (day, t) ← digits? 2 (← mark? '-' t)
  let (hour, t) ← digits? 2 (t.drop 1)
  let (minute, t) ← digits? 2 (← mark? ':' t)
  let (second, t) ← digits? 2 (← mark? ':' t)
  let (micro, t) := fraction t
  let stamp : Timestamp := ⟨⟨⟨year, month, day⟩, ⟨hour, minute, second, micro⟩⟩, ← offset? t⟩
  guard stamp.dateTime.problem?.isNone
  return stamp

end Timestamp

def Instant.read? (t : Text) : Option Instant := (Timestamp.read? t).bind Instant.ofTimestamp?

end LinkHarvest
