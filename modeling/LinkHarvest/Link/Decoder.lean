import LinkHarvest.Link.Summary

/-!
# Decoders

A decoder knows one protocol: the identifiers with which its links start, and how to read a link.
-/

namespace LinkHarvest.Link

/-- A decoder of one protocol. -/
structure Decoder where
  protocol : Text
  identifiers : List Text
  parse : Text → Except Problem Summary

/-- Whether a link starts with one of the identifiers, in any letter case. -/
def startsWithAny (identifiers : List Text) (link : Text) : Bool :=
  let longest := (identifiers.map List.length).foldl max 0
  let start := Text.lower (link.take longest)
  identifiers.any fun identifier => start.startsWith identifier

/-- The longer of two texts, the first one when they are equally long. -/
def longer (a b : Text) : Text := if a.length < b.length then b else a

/-- The longest of the identifiers with which a link starts, in any letter case. -/
def leadingIdentifier? (identifiers : List Text) (link : Text) : Option Text :=
  match identifiers.filter fun identifier => (Text.lower link).startsWith identifier with
  | [] => none
  | first :: rest => some (rest.foldl longer first)

def stripIdentifier (protocol : Text) (identifiers : List Text) (link : Text) :
    Except Problem Text :=
  match leadingIdentifier? identifiers link with
  | some identifier => .ok (link.drop identifier.length)
  | none => .error (.unrecognised protocol link)

namespace Decoder

def accepts (d : Decoder) (link : Text) : Bool := startsWithAny d.identifiers link

/-- Decodes a link. A link that does not follow the grammar gives a failure. -/
def decode (d : Decoder) (link : Text) : Decoded :=
  (d.parse link).mapError fun p => ⟨link, p.message, some d.protocol⟩

end Decoder

end LinkHarvest.Link
