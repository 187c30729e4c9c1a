import LinkHarvest.Text.CodePoint
import LinkHarvest.Time.Instant

/-!
# Records

What the store keeps: subscriptions, which are registered sources of links, and configs, which are
the links themselves with what is known about them.
-/

namespace LinkHarvest

/-- A registered source of links. -/
structure Subscription where
  id : Int
  url : Text
  remark : Option Text
  agent : Option Text
  enabled : Bool
  createdAt : Instant
  lastFetchedAt : Option Instant
  deriving DecidableEq, Repr

/-- The name of a subscription: its remark, or its number. -/
def Subscription.labelOf (id : Int) (remark : Option Text) : Text :=
  match remark with
  | none => '#' :: Text.ofInt id
  | some r => if r.isEmpty then '#' :: Text.ofInt id else r

def Subscription.label (s : Subscription) : Text := labelOf s.id s.remark

/-- A stored link. Its owner is the subscription that served it, if any did. -/
structure Config where
  id : Int
  owner : Option Int
  link : Text
  protocol : Option Text
  remark : Option Text
  addedAt : Instant
  lastSeenAt : Instant
  deriving DecidableEq, Repr

/-- A link as it is handed to the store. Times that are left out stand for the present. -/
structure Draft where
  owner : Option Int
  link : Option Text
  protocol : Option Text
  remark : Option LooseText
  addedAt : Option Timestamp
  lastSeenAt : Option Timestamp
  deriving DecidableEq, Repr

end LinkHarvest
