import LinkHarvest.Text.Base64
import LinkHarvest.Text.Lines

/-!
# Bodies of subscriptions

A subscription serves its links as lines of text, either plainly or encoded as base64. A body
that decodes as base64 counts as encoded; any other is read as plain text, with replacement
characters where it is not UTF-8.
-/

namespace LinkHarvest.Retrieval

/-- The links of a body, and whether the body was encoded. -/
structure Body where
  links : List Text
  encoded : Bool
  deriving DecidableEq, Repr

/-- The text that bytes encode as base64. Bytes beyond ASCII are no base64. -/
def decodeBase64? (bytes : Bytes) : Option Text :=
  if bytes.all (·.toNat < 128) then
    Base64.decodeBody? (bytes.map fun b => Char.ofNat b.toNat)
  else none

def readBody (bytes : Bytes) : Body :=
  match decodeBase64? bytes with
  | some t => ⟨Text.nonBlankLines t, true⟩
  | none => ⟨Text.nonBlankLines (Utf8.decodeReplacing bytes), false⟩

end LinkHarvest.Retrieval
