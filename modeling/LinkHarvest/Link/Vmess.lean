import LinkHarvest.Json.Reader
import LinkHarvest.Link.Decoder
import LinkHarvest.Link.Field
import LinkHarvest.Text.Base64

/-!
# Vmess links

Links of the form `vmess://` followed by a JSON object in base64.
-/

namespace LinkHarvest.Link.Vmess

def protocol : Text := "vmess"

def identifiers : List Text := ["vmess://"]

/-- The fields of the JSON object. -/
def fields : List Field :=
  [⟨"add", some "server".toList, .text⟩, ⟨"port", none, .integer⟩, ⟨"id", none, .text⟩,
   ⟨"aid", some "alter_id".toList, .integer⟩, ⟨"net", some "network".toList, .text⟩,
   ⟨"type", some "header_type".toList, .text⟩, ⟨"host", none, .text⟩, ⟨"path", none, .text⟩,
   ⟨"tls", none, .text⟩, ⟨"sni", none, .text⟩]

/-- The remark: the text of the value under `ps` unless it counts as false. -/
def remark (entries : List (Value × Value)) : LooseText :=
  match Value.find? entries "ps" with
  | some v => if v.isTruthy then v.display else []
  | none => []

def port? (details : Details) : Option Int :=
  match details.get? "port" with
  | some (.int n) => some n
  | _ => none

def summary (entries : List (Value × Value)) : Except Problem Summary :=
  let details := readFields fields entries
  match details.get? "server" with
  | some (.text (c :: rest)) =>
    .ok ⟨protocol, remark entries, address (c :: rest) (port? details), details⟩
  | _ => .error .missingHost

def parse (link : Text) : Except Problem Summary := do
  let payload ← stripIdentifier protocol identifiers link
  let t ← match Base64.decodeText? payload with
    | some t => pure t
    | none => throw .notBase64
  match ← (Json.read t).mapError .json with
  | .map entries => summary entries
  | _ => throw .notAnObject

def decoder : Decoder := ⟨protocol, identifiers, parse⟩

end LinkHarvest.Link.Vmess
