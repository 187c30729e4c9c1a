import LinkHarvest.Proofs.Link.Agreement
import LinkHarvest.Proofs.Url.Split
import Mathlib.Tactic.FinCases

/-!
# From a link to its decoder

A link that starts with an identifier, in any letter case, is accepted by every decoder that has the
identifier (`startsWithAny_of_mem`). The identifiers of the supported protocols exclude one another,
so the registry finds the decoder of a link by its identifier, whatever follows it
(`find?_of_identifier`, `find?_default`).
-/

namespace LinkHarvest.Link

/-- The grammars of the URI-shaped protocols. -/
def uriGrammars : List UriGrammar := [vless, trojan, hysteria2, tuic, wireguard, socks]

variable {scheme identifier start rest : Text} {d : Decoder}

/-! ## Identifiers -/

/-- An identifier is a scheme in lower case with what sets it off. -/
structure Identifies (scheme identifier : Text) : Prop where
  eq : identifier = scheme ++ "://".toList
  start : ∃ c rest, scheme = c :: rest ∧ c.isAlpha = true
  chars : scheme.all Url.isSchemeChar = true
  lower : scheme.map Char.toLower = scheme

namespace Identifies

theorem map_toLower (h : Identifies scheme identifier) :
    identifier.map Char.toLower = identifier := by
  rw [h.eq, List.map_append, h.lower]
  rfl

theorem visible (h : Identifies scheme identifier) : Text.Visible identifier := by
  rw [h.eq]
  have hscheme : Text.Visible scheme := fun c hc =>
    Url.visible_of_isSchemeChar (List.all_eq_true.mp h.chars c hc)
  exact hscheme.append (Text.forall_mem_of_all (by decide))

theorem visible_start (h : Identifies scheme identifier)
    (hstart : start.map Char.toLower = identifier) : Text.Visible start :=
  .of_map_toLower (hstart ▸ h.visible)

theorem start_ne_nil (h : Identifies scheme identifier)
    (hstart : start.map Char.toLower = identifier) : start ≠ [] := by
  rintro rfl
  rw [h.eq] at hstart
  exact List.append_ne_nil_of_right_ne_nil scheme (by decide) hstart.symm

theorem certain (h : Identifies scheme identifier) (t : Text) : Text.Certain t identifier := by
  refine Text.certain_of_ascii h.visible.ascii ?_ t
  rw [h.eq, List.getLast?_append]
  show some '/' ≠ some 'i'
  decide

end Identifies

theorem exists_scheme_of_mem (h : identifier ∈ Registry.default.map Prod.fst) :
    ∃ scheme, Identifies scheme identifier := by
  refine ⟨Text.before ':' identifier, ?_⟩
  fin_cases h <;> exact ⟨rfl, ⟨_, _, rfl, rfl⟩, rfl, rfl⟩

/-! ## Acceptance -/

theorem startsWithAny_of_mem {identifiers : List Text} (h : identifier ∈ identifiers)
    (hscheme : Identifies scheme identifier) (hstart : start.map Char.toLower = identifier) :
    startsWithAny identifiers (start ++ rest) = true := by
  refine startsWithAny_eq_true.mpr ⟨identifier, h, ?_⟩
  rw [prefix_lower_longest h (hscheme.certain _),
    Text.lower_append_of_ascii (hscheme.visible_start hstart).ascii, hstart]
  exact List.prefix_append _ _

theorem stripIdentifier_append {protocol : Text} (hvisible : Text.Visible identifier)
    (hstart : start.map Char.toLower = identifier) :
    stripIdentifier protocol [identifier] (start ++ rest) = .ok rest := by
  have hleads : (Text.lower (start ++ rest)).startsWith identifier = true := by
    rw [Text.lower_append_of_ascii (Text.Visible.of_map_toLower (hstart ▸ hvisible)).ascii, hstart]
    exact List.isPrefixOf_iff_prefix.mpr (List.prefix_append _ _)
  rw [stripIdentifier, leadingIdentifier?, List.filter_cons_of_pos hleads]
  show Except.ok ((start ++ rest).drop identifier.length) = _
  rw [← hstart, List.length_map, List.drop_left]

/-! ## The registry -/

theorem find?_of_filter
    (hstart : Text.trimStart (identifier ++ rest) = identifier ++ rest)
    (hascii : ∀ c ∈ identifier ++ rest, c.toNat < 128)
    (hlower : identifier.map Char.toLower = identifier)
    (honly : ∀ rest : Text, Registry.default.filter
      (fun entry => (identifier ++ rest).startsWith entry.1) = [(identifier, d)]) :
    Registry.default.find? (identifier ++ rest) = some d := by
  rw [Registry.find?, hstart, Text.lower_of_ascii hascii, List.map_append, hlower, honly]
  rfl

theorem decode_of_parse {r : Registry} {link t : Text} {s : Summary}
    (htrim : Text.trim link = t) (hfind : r.find? t = some d) (hparse : d.parse t = .ok s) :
    r.decode link = .ok s := by
  rw [Registry.decode, htrim, hfind]
  dsimp only
  rw [Decoder.decode, hparse]
  rfl

theorem find?_of_identifier (h : (identifier, d) ∈ Registry.default)
    (hstart : start.map Char.toLower = identifier) :
    Registry.default.find? (start ++ rest) = some d := by
  have hkey : identifier ∈ Registry.default.map Prod.fst := List.mem_map_of_mem h
  obtain ⟨scheme, hscheme⟩ := exists_scheme_of_mem hkey
  have hvisible := hscheme.visible_start hstart
  have htrim : Text.trimStart (start ++ rest) = start ++ rest := by
    refine Text.trimStart_of_head fun c hc => hvisible.isBlank (List.mem_of_mem_head? ?_)
    rwa [List.head?_append_of_ne_nil _ (hscheme.start_ne_nil hstart)] at hc
  have hfree : ∀ x ∈ Registry.default.map Prod.fst, ∀ y ∈ Registry.default.map Prod.fst,
      x <+: y → x = y := by decide +kernel
  refine (Registry.distinct_ofList Registry.defaultDecoders).find?_of_mem hfree h ?_
  rw [Registry.leadOf, htrim, Text.lower_append_of_ascii hvisible.ascii, hstart]
  exact List.prefix_append _ _

theorem mem_default {g : UriGrammar} (hg : g ∈ uriGrammars) (h : identifier ∈ g.identifiers) :
    (identifier, g.decoder) ∈ Registry.default := by
  refine (Registry.distinct_ofList Registry.defaultDecoders).mem_iff.mpr ?_
  fin_cases hg <;> fin_cases h <;> rfl

theorem exists_scheme {g : UriGrammar} (hg : g ∈ uriGrammars) (h : identifier ∈ g.identifiers) :
    ∃ scheme, Identifies scheme identifier :=
  exists_scheme_of_mem (List.mem_map_of_mem (mem_default hg h))

theorem filter_default {g : UriGrammar} (hg : g ∈ uriGrammars) (h : identifier ∈ g.identifiers)
    (rest : Text) : Registry.default.filter (fun entry => (identifier ++ rest).startsWith entry.1) =
      [(identifier, g.decoder)] := by
  fin_cases hg <;> fin_cases h <;> rfl

theorem find?_default {g : UriGrammar} (hg : g ∈ uriGrammars) (h : identifier ∈ g.identifiers)
    (hvisible : Text.Visible (identifier ++ rest)) :
    Registry.default.find? (identifier ++ rest) = some g.decoder := by
  obtain ⟨scheme, hscheme⟩ := exists_scheme hg h
  exact find?_of_filter hvisible.trimStart hvisible.ascii hscheme.map_toLower (filter_default hg h)

end LinkHarvest.Link
