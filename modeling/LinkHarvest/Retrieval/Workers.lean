import LinkHarvest.Text.Basic

/-!
# Workers

How many workers a run may use: between one and twenty are asked for, and no more than there are
jobs are given, but always one.
-/

namespace LinkHarvest.Retrieval

def minWorkers : Int := 1

def maxWorkers : Int := 20

/-- A number of workers out of range. -/
structure WorkersOutOfRange where
  requested : Int
  deriving DecidableEq, Repr

def WorkersOutOfRange.message (p : WorkersOutOfRange) : Text :=
  Text.concat ["workers must be between ", Text.ofInt minWorkers, " and ", Text.ofInt maxWorkers,
    ", got ", Text.ofInt p.requested]

/-- The number of workers for `jobs` jobs when `requested` are asked for. -/
def workersFor (requested jobs : Int) : Except WorkersOutOfRange Int :=
  if requested < minWorkers ∨ maxWorkers < requested then .error ⟨requested⟩
  else .ok (max minWorkers (min requested jobs))

end LinkHarvest.Retrieval
