import LinkHarvest.Text.Blank
import LinkHarvest.Text.Case
import LinkHarvest.Time.Instant

/-!
# Cells

How values are shown in the tables of the command line: long text is cut, times are given to the
second, and text is escaped so that none of it is read as markup.
-/

namespace LinkHarvest.Command

/-- The first `n` items of a list; a negative number counts from the end. -/
def firstItems (n : Int) (items : List α) : List α :=
  if 0 ≤ n then items.take n.toNat else items.take (items.length - n.natAbs)

/-- A text cut to a width, with three dots where it is cut. -/
def shortened (width : Int) (t : Text) : Text :=
  if (t.length : Int) ≤ width then t else firstItems (width - 3) t ++ "..."

def urlWidth : Int := 50

/-- A time to the second, or a note that there is none. -/
def shownTime (t : Option Timestamp) : Text :=
  match t with
  | none => "N/A"
  | some t => t.shown

/-- Reads a switch that is given as a word. -/
def readSwitch (t : Text) : Option Bool :=
  let word := String.ofList (Text.lower (Text.trim t))
  if word = "true" ∨ word = "1" then some true
  else if word = "false" ∨ word = "0" then some false
  else none

def switchMessage : Text := "--enabled must be one of true, false, 1, 0"

end LinkHarvest.Command
