import LinkHarvest.Run.Source
import LinkHarvest.Store.Problem

/-!
# Outcomes

What became of the sources of a run. The outcomes are collected by the positions of their sources,
in whatever order they arrive, and are summed up in the order of the sources.
-/

namespace LinkHarvest.Run

/-- Why a source failed. -/
inductive SourceProblem
  | retrieval (problem : Retrieval.Problem)
  | store (problem : StoreProblem)
  deriving DecidableEq, Repr

def SourceProblem.message : SourceProblem → Text
  | .retrieval p => p.message
  | .store p => p.message

/-- What became of one source: the configs that were stored, the number of links that it served,
and its problem, if it failed. -/
structure Outcome where
  url : Text
  label : Text
  subscription : Option Int
  configs : List Draft
  rawCount : Nat
  problem : Option SourceProblem
  deriving DecidableEq, Repr

def Outcome.ok (o : Outcome) : Bool := o.problem.isNone

/-- The sum of a run. Failed sources count only as failed. -/
structure BatchResult where
  totalSources : Nat
  totalLinks : Nat
  totalConfigs : Nat
  failedSources : Nat
  outcomes : List Outcome
  configs : List Draft
  output : Option Text
  deriving DecidableEq, Repr

namespace BatchResult

/-- The result of a run without sources. -/
def empty : BatchResult := ⟨0, 0, 0, 0, [], [], none⟩

def ok (r : BatchResult) : Bool := r.failedSources == 0

/-- The number of sources that did not fail. -/
def succeededSources (r : BatchResult) : Int := r.totalSources - r.failedSources

def plus (r : BatchResult) (o : Outcome) : BatchResult :=
  if o.ok then
    { r with
      totalLinks := r.totalLinks + o.rawCount
      totalConfigs := r.totalConfigs + o.configs.length
      configs := r.configs ++ o.configs
      outcomes := r.outcomes ++ [o] }
  else { r with failedSources := r.failedSources + 1, outcomes := r.outcomes ++ [o] }

/-- The result of a run of `total` sources with the given outcomes. -/
def ofOutcomes (total : Nat) (outcomes : List Outcome) : BatchResult :=
  outcomes.foldl plus { empty with totalSources := total }

end BatchResult

/-- The outcomes that have arrived so far, each with the position of its source. -/
structure Accumulator where
  total : Nat
  arrived : List (Nat × Outcome)
  deriving DecidableEq, Repr

namespace Accumulator

/-- An accumulator for `total` sources. -/
def start (total : Nat) : Accumulator := ⟨total, []⟩

/-- Adds the outcome of the source at a position, in place of an earlier one. -/
def add (a : Accumulator) (position : Nat) (o : Outcome) : Accumulator :=
  { a with arrived := a.arrived.filter (fun e => e.1 ≠ position) ++ [(position, o)] }

/-- The outcomes in the order of their sources. -/
def outcomes (a : Accumulator) : List Outcome :=
  (a.arrived.mergeSort fun x y => x.1 ≤ y.1).map (·.2)

def result (a : Accumulator) : BatchResult := .ofOutcomes a.total a.outcomes

end Accumulator

end LinkHarvest.Run
