import LinkHarvest.Retrieval.Problem
import LinkHarvest.Text.Blank

/-!
# URLs of sources

A source is named by an absolute URL: one with a scheme and a network location. White space around
it does not count.
-/

namespace LinkHarvest.Retrieval

def checkUrl (url : Text) : Except Problem Text :=
  let trimmed := Text.trim url
  match Url.split trimmed with
  | .error p => .error (.invalidUrl url (.malformed p))
  | .ok parts =>
    if parts.scheme.isEmpty || parts.netloc.isEmpty then .error (.invalidUrl url .notAbsolute)
    else .ok trimmed

end LinkHarvest.Retrieval
