import LinkHarvest.Store.Record

/-!
# Sources

What a run fetches from: stored subscriptions, and URLs that nobody has stored.
-/

namespace LinkHarvest.Run

/-- A source of links. -/
structure Source where
  url : Text
  label : Text
  subscription : Option Int
  agent : Option Text
  deriving DecidableEq, Repr

def Source.ofSubscription (s : Subscription) : Source := ⟨s.url, s.label, some s.id, s.agent⟩

/-- A URL as a source, named by itself. -/
def Source.ofUrl (url : Text) : Source := ⟨url, url, none, none⟩

end LinkHarvest.Run
