import LinkHarvest.Log.Event

/-!
# Repeated links

Within one retrieval a link counts once: the first occurrence of each exact text stays, in order.
How many were dropped is reported on demand.
-/

namespace LinkHarvest.Retrieval

/-- The links that are kept, and the number of those that are dropped. -/
structure Deduplicated where
  links : List Text
  removed : Nat
  deriving DecidableEq, Repr

def Deduplicated.hadDuplicates (d : Deduplicated) : Bool := 0 < d.removed

/-- The items of a list that are not in `seen` and did not come before. -/
def firstsAfter [DecidableEq α] (seen : List α) : List α → List α
  | [] => []
  | x :: rest => if x ∈ seen then firstsAfter seen rest else x :: firstsAfter (x :: seen) rest

/-- The first occurrences of the items of a list. -/
def firsts [DecidableEq α] (items : List α) : List α := firstsAfter [] items

/-- Keeps the first occurrence of every link. -/
def deduplicate (links : List Text) : Deduplicated :=
  ⟨firsts links, links.length - (firsts links).length⟩

/-- The links that are kept, and what is reported about the others when reports are wanted. -/
def dedupe (verbose : Bool) (links : List Text) : List Text × List Log.Event :=
  let d := deduplicate links
  (d.links, if verbose then [.duplicatesRemoved d.removed d.links.length] else [])

end LinkHarvest.Retrieval
