import LinkHarvest.Proofs.Link.Record
import LinkHarvest.Proofs.Link.Required
import LinkHarvest.Proofs.Url.Address

/-!
# Addresses of links

The address of a decoded link is made of the host and the port that were read from the link, and
these are read from the address again (`address_reads_back`), for every decoder that reads host and
port from a URL: the URI grammars, which take the link itself for one, and shadowsocks, which makes
one of the part behind the at sign. So the address tells host and port.
-/

namespace LinkHarvest.Link

/-- A decoder that reads host and port from a URL. -/
inductive Locator
  | uri (g : UriGrammar)
  | shadowsocks

namespace Locator

def decoder : Locator → Decoder
  | .uri g => g.decoder
  | .shadowsocks => Shadowsocks.decoder

/-- The URL from which a decoder reads host and port of a link. -/
def parts : Locator → Text → Except Problem Url.Parts
  | .uri _, link => (Url.split link).mapError .url
  | .shadowsocks, link => do
    let rest ← stripIdentifier Shadowsocks.protocol Shadowsocks.identifiers link
    let (_, endpoint) ← Shadowsocks.sides (Shadowsocks.Body.ofText rest).main
    (Url.split ('/' :: '/' :: endpoint)).mapError .url

/-- A link is decoded, with a host and a port. -/
structure Reads (l : Locator) (link : Text) (s : Summary) (host : Text) (port : Option Nat) :
    Prop where
  decoded : l.decoder.decode link = .ok s
  located : ∃ parts, l.parts link = .ok parts ∧ parts.host = host ∧ parts.port = .ok port

variable {l : Locator} {link host : Text} {s : Summary} {port : Option Nat}

theorem parts_of_decode (h : l.decoder.decode link = .ok s) :
    ∃ t parts port, Url.split t = .ok parts ∧ parts.port = .ok port ∧ l.parts link = .ok parts ∧
      s.address = address (.ofText parts.host) (port.map Int.ofNat) := by
  have hparse : l.decoder.parse link = .ok s := Fallible.mapError_eq_ok.mp h
  cases l with
  | uri g =>
    obtain ⟨parts, port, credential, values, hsplit, -, hport, -, -, haddress, -⟩ :=
      UriGrammar.parse_eq_ok hparse
    exact ⟨link, parts, port, hsplit, hport, Fallible.mapError_eq_ok.mpr hsplit, haddress⟩
  | shadowsocks =>
    obtain ⟨rest, userInfo, endpoint, method, password, parts, port, values, hrest, hsides, -,
      hsplit, -, hport, -, haddress, -⟩ := Shadowsocks.parse_eq_ok hparse
    refine ⟨_, parts, port, hsplit, hport, ?_, haddress⟩
    dsimp only [Locator.parts]
    rw [hrest, Fallible.ok_bind, hsides, Fallible.ok_bind]
    exact Fallible.mapError_eq_ok.mpr hsplit

theorem Reads.unique {host' : Text} {port' : Option Nat} (h : l.Reads link s host port)
    (h' : l.Reads link s host' port') : host = host' ∧ port = port' := by
  obtain ⟨-, parts, hparts, rfl, hport⟩ := h
  obtain ⟨-, parts', hparts', rfl, hport'⟩ := h'
  rw [hparts] at hparts'
  cases hparts'
  rw [hport] at hport'
  exact ⟨rfl, Except.ok.inj hport'⟩

end Locator

/-! ## Addresses -/

variable {l : Locator} {link host : Text} {s : Summary} {port : Option Nat}

/-- A host in ASCII, without brackets. -/
structure Plain (host : Text) : Prop where
  ascii : ∀ c ∈ host, c.toNat < 128
  bracket : '[' ∉ host ∧ ']' ∉ host

theorem address_eq_authority (h : '[' ∉ host) (port : Option Nat) :
    address (.ofText host) (port.map Int.ofNat) = .ofText (Url.authority host port) := by
  by_cases hcolon : ':' ∈ host
  · have hmem : (LooseText.ofText host).contains (.char ':') = true :=
      List.contains_iff_mem.mpr (List.mem_map_of_mem hcolon)
    have hhead : (LooseText.ofText host).head? ≠ some (.char '[') := by
      intro hhead
      rw [LooseText.ofText, List.head?_map, Option.map_eq_some_iff] at hhead
      obtain ⟨c, hc, heq⟩ := hhead
      cases heq
      exact h (List.mem_of_mem_head? hc)
    rw [Url.authority_of_mem hcolon]
    unfold address
    dsimp only
    rw [hmem, Bool.true_and, if_pos (bne_iff_ne.mpr hhead)]
    cases port with
    | none => simp [LooseText.ofText, Url.marked]
    | some n =>
      have hnumeral : Text.ofInt (Int.ofNat n) = Text.ofNat n := rfl
      dsimp only [Option.map_some]
      rw [hnumeral]
      simp [LooseText.ofText, Url.marked]
  · rw [address_ofText hcolon, Url.authority_of_not_mem hcolon]

/-- What is known of a link with a plain host: its address is written with this host and its port,
and they are read from it. -/
theorem Locator.Reads.address (h : l.Reads link s host port) (hplain : Plain host) :
    s.address = .ofText (Url.authority host port) ∧
      ∃ again, Url.split ('/' :: '/' :: Url.authority host port) = .ok again ∧ again.host = host ∧
        again.port = .ok port := by
  obtain ⟨t, parts, port', hsplit, hport, hparts, haddress⟩ := parts_of_decode h.decoded
  obtain ⟨rfl, rfl⟩ := h.unique ⟨h.decoded, parts, hparts, rfl, hport⟩
  refine ⟨haddress.trans (address_eq_authority hplain.bracket.1 port), ?_⟩
  exact (Url.settled_host hsplit hplain.ascii hplain.bracket).split_authority
    (Url.Parts.port_le hport)

/-- **Host and port are read from the address again**, and so no other host and port have the same
address. -/
theorem address_reads_back (h : l.decoder.decode link = .ok s) :
    ∃ host port, l.Reads link s host port ∧ (Plain host →
      (∃ t again, s.address = .ofText t ∧ Url.split ('/' :: '/' :: t) = .ok again ∧
        again.host = host ∧ again.port = .ok port) ∧
      ∀ (l' : Locator) (link' : Text) (s' : Summary) (host' : Text) (port' : Option Nat),
        l'.Reads link' s' host' port' → Plain host' → s'.address = s.address →
          host' = host ∧ port' = port) := by
  obtain ⟨t, parts, port, -, hport, hparts, -⟩ := Locator.parts_of_decode h
  have hreads : l.Reads link s parts.host port := ⟨h, parts, hparts, rfl, hport⟩
  refine ⟨parts.host, port, hreads, fun hplain => ?_⟩
  obtain ⟨haddress, again, hsplit, hhost, hagain⟩ := hreads.address hplain
  refine ⟨⟨_, again, haddress, hsplit, hhost, hagain⟩, ?_⟩
  intro l' link' s' host' port' hreads' hplain' heq
  obtain ⟨haddress', again', hsplit', rfl, hagain'⟩ := hreads'.address hplain'
  -- The two addresses are the same text, so the same is read from them.
  have htext := LooseText.ofText_injective ((haddress'.symm.trans heq).trans haddress)
  rw [htext, hsplit] at hsplit'
  cases hsplit'
  rw [hagain] at hagain'
  exact ⟨hhost, (Except.ok.inj hagain').symm⟩

/-- A link to an address of version 6 with a zone, and with a port that has leading zeros. -/
def zonedLink : Text := "tuic://u:p@[FE80::A%Eth0]:0443"

def zonedSummary : Summary where
  protocol := "tuic"
  remark := []
  address := .ofText "[fe80::a%Eth0]:443"
  details := [("uuid".toList, .text (.ofText "u")), ("password".toList, .text (.ofText "p"))]

theorem address_reads_back_of_zonedLink :
    (Locator.uri tuic).decoder.decode zonedLink = .ok zonedSummary ∧
      Plain "fe80::a%Eth0" ∧
      ∃ t again, zonedSummary.address = .ofText t ∧ Url.split ('/' :: '/' :: t) = .ok again ∧
        again.host = "fe80::a%Eth0".toList ∧ again.port = .ok (some 443) := by
  have hdecode : (Locator.uri tuic).decoder.decode zonedLink = .ok zonedSummary := by
    decide +kernel
  have hplain : Plain "fe80::a%Eth0" :=
    ⟨Text.forall_mem_of_all (by decide), by decide, by decide⟩
  obtain ⟨host, port, hreads, hback⟩ := address_reads_back hdecode
  have hzoned : (Locator.uri tuic).Reads zonedLink zonedSummary "fe80::a%Eth0" (some 443) :=
    ⟨hdecode, ⟨"tuic", "u:p@[FE80::A%Eth0]:0443", [], [], []⟩, by decide +kernel, by decide +kernel,
      by decide +kernel⟩
  obtain ⟨rfl, rfl⟩ := hreads.unique hzoned
  exact ⟨hdecode, hplain, (hback hplain).1⟩

end LinkHarvest.Link
