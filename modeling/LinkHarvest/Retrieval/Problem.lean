import LinkHarvest.Http.Status
import LinkHarvest.Text.Quoted
import LinkHarvest.Url.Split

/-!
# Retrieval problems

Why a subscription could not be retrieved: its URL is invalid, the transport failed, the request
could not be built, or the server refused it.
-/

namespace LinkHarvest.Retrieval

/-- What is wrong with a URL. -/
inductive UrlFault
  | malformed (p : Url.Problem)
  | notAbsolute
  | refused (message : Text)
  deriving DecidableEq, Repr

def UrlFault.message : UrlFault → Text
  | .malformed p => p.message
  | .notAbsolute => "not an absolute URL"
  | .refused message => message

/-- Why a URL could not be retrieved. -/
inductive Problem
  | invalidUrl (url : Text) (fault : UrlFault)
  | transport (url detail : Text)
  | rejected (url detail : Text)
  | status (url : Text) (code : Int)
  deriving DecidableEq, Repr

namespace Problem

def message : Problem → Text
  | .invalidUrl url fault =>
    Text.concat ["invalid subscription URL ", Text.quoted url, ": ", fault.message]
  | .transport url detail => Text.concat ["failed to fetch subscription ", url, ": ", detail]
  | .rejected url detail => Text.concat ["cannot build request for ", url, ": ", detail]
  | .status url code => Text.concat ["server returned HTTP ", Text.ofInt code, " for ", url]

def url : Problem → Text
  | .invalidUrl url _ => url
  | .transport url _ => url
  | .rejected url _ => url
  | .status url _ => url

/-- The status with which a server refused. -/
def status? : Problem → Option Int
  | .status _ code => some code
  | _ => none

/-- What is known in detail about a problem. -/
def detail? : Problem → Option Text
  | .invalidUrl .. => none
  | .transport _ detail => some detail
  | .rejected _ detail => some detail
  | .status _ code => some (Http.reasonPhrase code)

end Problem

end LinkHarvest.Retrieval
