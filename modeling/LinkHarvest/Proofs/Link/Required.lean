import LinkHarvest.Proofs.Fallible
import LinkHarvest.Proofs.Link.Dispatch
import LinkHarvest.Proofs.Link.Fields
import LinkHarvest.Proofs.Link.Registry
import LinkHarvest.Proofs.Text.Percent

/-!
# What every decoded link states

A decoded link has a host, and its details hold the credential of its protocol (`decode_complete`),
with three exceptions that no decoder checks: the id of a vmess link, the user id of a tuic link and
the password of a shadowsocks link. Each of them is missing or empty in some decoded link
(`unchecked_of_links`).

A summary can only come from one of the registered decoders (`decode_eq_ok`), so the proof has one
part for each way to parse: the URI grammars, JSON objects, and the forms of shadowsocks. Fields
that are read later never overwrite a credential, since no field sets its attribute.
-/

namespace LinkHarvest

namespace Link

theorem names_readFields {fields : List Field} {values : List (Value × Value)} {name : Text}
    (h : name ∈ (readFields fields values).map Prod.fst) :
    name ∈ fields.map Field.attributeName := by
  rw [readFields_eq_update, Details.mem_names_update] at h
  exact (names_sublist fields values).subset (h.resolve_left List.not_mem_nil)

theorem get?_update_readFields {fields : List Field} {details : Details} {name : Text}
    (h : name ∉ fields.map Field.attributeName) (values : List (Value × Value)) :
    (details.update (readFields fields values)).get? name = details.get? name :=
  Details.get?_update_of_not_mem (mt names_readFields h)

/-! ## The decoder of a decoded link -/

namespace Registry

theorem decode_eq_ok {ds : List Decoder} {link : Text} {s : Summary}
    (h : (ofList ds).decode link = .ok s) : ∃ d ∈ ds, d.parse (Text.trim link) = .ok s := by
  unfold decode at h
  dsimp only at h
  split at h
  · rename_i d hfind
    obtain ⟨x, hmem, -⟩ := (distinct_ofList ds).find?_eq_some.mp hfind
    exact ⟨d, (mem_ofList.mp hmem).mem.1, Fallible.mapError_eq_ok.mp h⟩
  · cases h

end Registry

/-! ## Components -/

/-- The attributes of the credential of each protocol. -/
def credentials : List (Text × List Text) :=
  [("vless", ["id"]), ("vmess", ["id"]), ("trojan", ["password"]), ("hysteria2", ["password"]),
    ("tuic", ["uuid"]), ("wireguard", ["secret_key"]), ("shadowsocks", ["method", "password"]),
    ("socks", [])]

/-- The attributes that a link of a protocol has to set. -/
def required (protocol : Text) : List Text :=
  ((credentials.find? fun e => e.1 = protocol).map Prod.snd).getD []

/-- The attributes among them that no decoder checks. -/
def unchecked : List (Text × Text) :=
  [("vmess", "id"), ("tuic", "uuid"), ("shadowsocks", "password")]

/-- An attribute is set to a text that is not empty. -/
def Filled (details : Details) (name : Text) : Prop :=
  ∃ t, t ≠ [] ∧ details.get? name = some (.text t)

/-- A summary has a host and every attribute that a decoder checks. -/
structure Complete (s : Summary) : Prop where
  protocol : s.protocol ∈ credentials.map Prod.fst
  host : ∃ host port, host ≠ [] ∧ s.address = address host port
  credential : ∀ a ∈ required s.protocol, Filled s.details a ∨ (s.protocol, a) ∈ unchecked

theorem ofText_ne_nil {t : Text} (h : t ≠ []) : LooseText.ofText t ≠ [] := by
  simpa [LooseText.ofText] using h

/-! ### URI-shaped links -/

theorem UriGrammar.parse_eq_ok {g : UriGrammar} {link : Text} {s : Summary}
    (h : g.parse link = .ok s) : ∃ parts port credential values, Url.split link = .ok parts ∧
      parts.host ≠ [] ∧ parts.port = .ok port ∧
      g.credentialDetails parts.userInfo = .ok credential ∧ s.protocol = g.protocol ∧
      s.address = address (.ofText parts.host) (port.map Int.ofNat) ∧
      s.details = credential.update (readFields g.fields values) := by
  unfold UriGrammar.parse at h
  split at h
  · cases h
  · obtain ⟨parts, hsplit, h⟩ := Fallible.bind_eq_ok.mp h
    dsimp only at h
    split at h
    · cases h
    · rename_i hempty
      obtain ⟨port, hport, h⟩ := Fallible.bind_eq_ok.mp h
      obtain ⟨credential, hcredential, h⟩ := Fallible.bind_eq_ok.mp h
      cases h
      exact ⟨parts, port, credential, _, Fallible.mapError_eq_ok.mp hsplit, by simpa using hempty,
        Fallible.mapError_eq_ok.mp hport, hcredential, rfl, rfl, rfl⟩

theorem UriGrammar.filled_secret {g : UriGrammar} {name userInfo : Text} {credential : Details}
    (hname : g.credential = .secret name) (h : g.credentialDetails userInfo = .ok credential) :
    Filled credential name := by
  unfold credentialDetails at h
  rw [hname] at h
  split at h
  · cases h
  · rename_i hne
    cases h
    have huser : userInfo ≠ [] := by simpa using hne
    refine ⟨_, ofText_ne_nil (Percent.unescape_ne_nil huser), ?_⟩
    simp [CredentialForm.details, Details.get?, Detail.ofText]

/-- What a grammar promises: its protocol is listed, and every attribute of the credential is its
secret, which no field sets, or not checked. -/
structure UriGrammar.Listed (g : UriGrammar) : Prop where
  protocol : g.protocol ∈ credentials.map Prod.fst
  credential : ∀ a ∈ required g.protocol, (g.protocol, a) ∈ unchecked ∨
    g.credential = .secret a ∧ a ∉ g.fields.map Field.attributeName

theorem listed_of_mem {g : UriGrammar} (hg : g ∈ uriGrammars) : g.Listed := by
  fin_cases hg <;> exact ⟨by decide, by decide⟩

theorem UriGrammar.complete {g : UriGrammar} (hg : g ∈ uriGrammars) {link : Text} {s : Summary}
    (h : g.parse link = .ok s) : Complete s := by
  obtain ⟨parts, port, credential, values, -, hhost, -, hcredential, hprotocol, haddress,
    hdetails⟩ := parse_eq_ok h
  have hlisted := listed_of_mem hg
  refine ⟨hprotocol ▸ hlisted.protocol, ⟨_, _, ofText_ne_nil hhost, haddress⟩, ?_⟩
  rw [hprotocol]
  intro a ha
  rcases hlisted.credential a ha with h | ⟨hsecret, hfields⟩
  · exact .inr h
  · obtain ⟨t, ht, hget⟩ := filled_secret hsecret hcredential
    refine .inl ⟨t, ht, ?_⟩
    rw [hdetails, get?_update_readFields hfields, hget]

/-! ### JSON objects -/

theorem Vmess.complete {link : Text} {s : Summary} (h : Vmess.parse link = .ok s) :
    Complete s := by
  unfold Vmess.parse at h
  obtain ⟨payload, -, h⟩ := Fallible.bind_eq_ok.mp h
  have hlisted : Vmess.protocol ∈ credentials.map Prod.fst := by decide
  have hid : ∀ a ∈ required Vmess.protocol, (Vmess.protocol, a) ∈ unchecked := by decide
  dsimp only at h
  split at h
  · obtain ⟨t, -, h⟩ := Fallible.bind_eq_ok.mp h
    obtain ⟨v, -, h⟩ := Fallible.bind_eq_ok.mp h
    split at h
    · rename_i entries
      unfold Vmess.summary at h
      dsimp only at h
      split at h
      · cases h
        exact ⟨hlisted, ⟨_, _, List.cons_ne_nil _ _, rfl⟩, fun a ha => .inr (hid a ha)⟩
      · cases h
    · cases h
  · cases h

/-! ### The forms of shadowsocks -/

theorem Shadowsocks.parse_eq_ok {link : Text} {s : Summary} (h : parse link = .ok s) :
    ∃ rest userInfo endpoint method password parts port values,
      stripIdentifier protocol identifiers link = .ok rest ∧
      sides (Body.ofText rest).main = .ok (userInfo, endpoint) ∧
      account userInfo = .ok (method, password) ∧
      Url.split ('/' :: '/' :: endpoint) = .ok parts ∧ parts.host ≠ [] ∧ parts.port = .ok port ∧
      s.protocol = protocol ∧ s.address = address (.ofText parts.host) (port.map Int.ofNat) ∧
      s.details = Details.update [("method", Detail.ofText method),
        ("password", Detail.ofText password)] (readFields fields values) := by
  unfold parse at h
  obtain ⟨rest, hrest, h⟩ := Fallible.bind_eq_ok.mp h
  obtain ⟨⟨userInfo, endpoint⟩, hsides, h⟩ := Fallible.bind_eq_ok.mp h
  obtain ⟨⟨method, password⟩, haccount, h⟩ := Fallible.bind_eq_ok.mp h
  obtain ⟨parts, hsplit, h⟩ := Fallible.bind_eq_ok.mp h
  dsimp only at h
  split at h
  · cases h
  · rename_i hempty
    obtain ⟨port, hport, h⟩ := Fallible.bind_eq_ok.mp h
    cases h
    exact ⟨rest, userInfo, endpoint, method, password, parts, port, _, hrest, hsides, haccount,
      Fallible.mapError_eq_ok.mp hsplit, by simpa using hempty, Fallible.mapError_eq_ok.mp hport,
      rfl, rfl, rfl⟩

theorem Shadowsocks.complete {link : Text} {s : Summary} (h : Shadowsocks.parse link = .ok s) :
    Complete s := by
  obtain ⟨rest, userInfo, endpoint, method, password, parts, port, values, -, -, haccount, -, hhost,
    -, hprotocol, haddress, hdetails⟩ := parse_eq_ok h
  have hlisted : Shadowsocks.protocol ∈ credentials.map Prod.fst := by decide
  have hpassword : (Shadowsocks.protocol, "password".toList) ∈ unchecked := by decide
  have hmethod : method ≠ [] := by
    unfold Shadowsocks.account at haccount
    split at haccount
    · cases haccount
      exact List.cons_ne_nil _ _
    · cases haccount
  refine ⟨hprotocol ▸ hlisted, ⟨_, _, ofText_ne_nil hhost, haddress⟩, ?_⟩
  have hrequired : required Shadowsocks.protocol = ["method".toList, "password".toList] := by rfl
  rw [hprotocol, hrequired, hdetails]
  intro a ha
  rcases List.mem_cons.mp ha with rfl | ha
  · refine .inl ⟨_, ofText_ne_nil hmethod, ?_⟩
    rw [get?_update_readFields (by decide)]
    rfl
  · rw [List.mem_singleton.mp ha]
    exact .inr hpassword

/-! ### All decoders -/

/-- **A decoded link is complete.** -/
theorem decode_complete {link : Text} {s : Summary} (h : Registry.default.decode link = .ok s) :
    Complete s := by
  obtain ⟨d, hd, hparse⟩ := Registry.decode_eq_ok h
  fin_cases hd
  · exact UriGrammar.complete (g := vless) (by simp [uriGrammars]) hparse
  · exact Vmess.complete hparse
  · exact UriGrammar.complete (g := trojan) (by simp [uriGrammars]) hparse
  · exact Shadowsocks.complete hparse
  · exact UriGrammar.complete (g := hysteria2) (by simp [uriGrammars]) hparse
  · exact UriGrammar.complete (g := tuic) (by simp [uriGrammars]) hparse
  · exact UriGrammar.complete (g := wireguard) (by simp [uriGrammars]) hparse
  · exact UriGrammar.complete (g := socks) (by simp [uriGrammars]) hparse

def serverAlone : Text := "vmess://eyJhZGQiOiJoIn0="

theorem decode_complete_of_serverAlone :
    Registry.default.decode serverAlone = .ok {
      protocol := "vmess".toList
      remark := []
      address := .ofText "h"
      details := [("server", .text (.ofText "h"))] } ∧
    Complete {
      protocol := "vmess".toList
      remark := []
      address := .ofText "h"
      details := [("server", .text (.ofText "h"))] } := by
  have hdecode : Registry.default.decode serverAlone = .ok {
      protocol := "vmess".toList
      remark := []
      address := .ofText "h"
      details := [("server", .text (.ofText "h"))] } := by
    decide +kernel
  exact ⟨hdecode, decode_complete hdecode⟩

theorem unchecked_of_links : ∀ p ∈ unchecked, ∃ link s, Registry.default.decode link = .ok s ∧
    s.protocol = p.1 ∧ p.2 ∈ required s.protocol ∧ ¬Filled s.details p.2 := by
  have hfilled {s : Summary} {a : Text} (h : ∀ t, s.details.get? a = some (.text t) → t = []) :
      ¬Filled s.details a := fun ⟨t, hne, hget⟩ => hne (h t hget)
  intro p hp
  fin_cases hp
  · refine ⟨serverAlone, ⟨"vmess".toList, [], .ofText "h",
      [("server".toList, .text (.ofText "h"))]⟩, by decide +kernel, rfl, by decide, hfilled ?_⟩
    rintro t ⟨⟩
  · refine ⟨"tuic://:pw@h".toList, ⟨"tuic".toList, [], .ofText "h",
      [("uuid".toList, .text []), ("password".toList, .text (.ofText "pw"))]⟩,
      by decide +kernel, rfl, by decide, hfilled ?_⟩
    rintro t ⟨⟩
    rfl
  · refine ⟨"ss://m:@h".toList, ⟨"shadowsocks".toList, [], .ofText "h",
      [("method".toList, .text (.ofText "m")), ("password".toList, .text [])]⟩,
      by decide +kernel, rfl, by decide, hfilled ?_⟩
    rintro t ⟨⟩
    rfl

end Link

end LinkHarvest
