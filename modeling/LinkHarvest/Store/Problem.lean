import LinkHarvest.Retrieval.Problem
import LinkHarvest.Store.Database

/-!
# Store problems

Why the store refuses a call.
-/

namespace LinkHarvest

/-- What the store was doing when it failed. -/
inductive StoreActivity
  | reading
  | adding
  | changing
  | saving
  deriving DecidableEq, Repr

/-- The start of the message about a failure. -/
def StoreActivity.heading : StoreActivity → Text
  | .reading => []
  | .adding => "failed to add subscription: "
  | .changing => []
  | .saving => "failed to save configs: "

/-- Why a call to the store failed. -/
inductive StoreProblem
  | invalidUrl (p : Retrieval.Problem)
  | duplicateUrl (url : Text)
  | noSubscription (id : Int)
  | noConfig (link : Text)
  | nothingToUpdate
  | constraint (during : StoreActivity) (c : Constraint)
  | closed (during : StoreActivity)
  | refused (message : Text)
  | cannotOpen (path reason : Text)
  | integerTooLarge
  | timeOutOfRange
  | unpairedHalf (t : LooseText)
  deriving DecidableEq, Repr

/-- The family of a problem: one that names a missing record, another problem of the store, a URL
that is invalid, or a value that no store can hold. -/
inductive StoreProblem.Family
  | notFound
  | store
  | invalidUrl
  | overflow
  | encoding
  deriving DecidableEq, Repr

namespace StoreProblem

def unpairedMessage (t : LooseText) : Text :=
  let isHalf : CodePoint → Bool
    | .half _ => true
    | .char _ => false
  let start := (t.takeWhile fun p => !isHalf p).length
  let run := (t.drop start).takeWhile isHalf
  let what :=
    match run with
    | [.half code] =>
      Text.concat [" '\\u", Text.hex 4 code, "' in position ", Text.ofNat start]
    | _ => Text.concat ["s in position ", Text.ofNat start, "-",
        Text.ofNat (start + run.length - 1)]
  Text.concat ["'utf-8' codec can't encode character", what, ": surrogates not allowed"]

def message : StoreProblem → Text
  | .invalidUrl p => p.message
  | .duplicateUrl url => "subscription already exists: " ++ url
  | .noSubscription id => Text.concat ["subscription with ID ", Text.ofInt id, " not found"]
  | .noConfig link => "config not found: " ++ link
  | .nothingToUpdate => "at least one field must be specified to update"
  | .constraint .changing c => "constraint violated: " ++ c.message
  | .constraint during c => during.heading ++ c.message
  | .closed during => during.heading ++ "Cannot operate on a closed database."
  | .refused message => message
  | .cannotOpen path reason => Text.concat ["cannot open database ", path, ": ", reason]
  | .integerTooLarge => "Python int too large to convert to SQLite INTEGER"
  | .timeOutOfRange => "date value out of range"
  | .unpairedHalf t => unpairedMessage t

def family : StoreProblem → Family
  | .invalidUrl _ => .invalidUrl
  | .noSubscription _ => .notFound
  | .noConfig _ => .notFound
  | .integerTooLarge => .overflow
  | .timeOutOfRange => .overflow
  | .unpairedHalf _ => .encoding
  | _ => .store

/-- Whether a problem is one of the store itself and not of a value that it was given. -/
def isReported (p : StoreProblem) : Bool :=
  match p.family with
  | .notFound => true
  | .store => true
  | .invalidUrl => true
  | .overflow => false
  | .encoding => false

end StoreProblem

end LinkHarvest
