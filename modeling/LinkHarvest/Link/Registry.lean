import LinkHarvest.Link.Shadowsocks
import LinkHarvest.Link.Uri
import LinkHarvest.Link.Vmess
import LinkHarvest.Text.Blank

/-!
# The registry of decoders

Decoders are registered under their identifiers in lower case, a later one taking over an
identifier from an earlier one. A link goes to the decoder with the longest identifier that the
link starts with, in any letter case.
-/

namespace LinkHarvest.Link

/-- Decoders under their identifiers in lower case. -/
abbrev Registry := List (Text × Decoder)

namespace Registry

def bind (r : Registry) (identifier : Text) (d : Decoder) : Registry :=
  match r with
  | [] => [(identifier, d)]
  | (i, e) :: rest => if i = identifier then (i, d) :: rest else (i, e) :: bind rest identifier d

/-- The registry with a decoder under each of its identifiers. -/
def register (r : Registry) (d : Decoder) : Registry :=
  d.identifiers.foldl (fun r identifier => r.bind (Text.lower identifier) d) r

def ofList (decoders : List Decoder) : Registry := decoders.foldl register []

/-- The decoders of the supported protocols. -/
def defaultDecoders : List Decoder :=
  [vless.decoder, Vmess.decoder, trojan.decoder, Shadowsocks.decoder, hysteria2.decoder,
   tuic.decoder, wireguard.decoder, socks.decoder]

/-- The registry of the supported protocols. -/
def default : Registry := ofList defaultDecoders

/-- The one of two entries with the longer identifier, the first one when they are equally long. -/
def better (a b : Text × Decoder) : Text × Decoder := if a.1.length < b.1.length then b else a

def find? (r : Registry) (link : Text) : Option Decoder :=
  let start := Text.lower (Text.trimStart link)
  match r.filter fun entry => start.startsWith entry.1 with
  | [] => none
  | first :: rest => some (rest.foldl better first).2

/-- Decodes a link, ignoring white space around it. A link that no decoder takes is hinted at by
what stands before `://`. -/
def decode (r : Registry) (link : Text) : Decoded :=
  let t := Text.trim link
  match r.find? t with
  | some d => d.decode t
  | none => .error ⟨link, "unsupported protocol", (Text.cutAt "://" t).map (·.1)⟩

/-- The protocols of a registry, each once. -/
def protocols (r : Registry) : List Text := (r.map (·.2.protocol)).eraseDups

end Registry

end LinkHarvest.Link
