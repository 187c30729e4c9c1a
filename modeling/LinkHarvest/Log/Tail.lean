import LinkHarvest.Text.Lines
import LinkHarvest.Text.Utf8

/-!
# The end of a log

The last lines of a log file. Bytes that are no text are skipped and every line end is read as a
line feed. A count of zero stands for the whole log, and a negative one for all but so many lines
at the start.
-/

namespace LinkHarvest.Log

def lines (log : Bytes) : List Text := Text.rawLines (Text.withLineFeeds (Utf8.decodeSkipping log))

def lastItems (count : Int) (items : List α) : List α :=
  if 0 < count then items.drop (items.length - count.toNat) else items.drop count.natAbs

/-- The last `count` lines of a log file; nothing when there is no file. -/
def tail (log : Option Bytes) (count : Int) : List Text :=
  match log with
  | none => []
  | some bytes => lastItems count (lines bytes)

end LinkHarvest.Log
