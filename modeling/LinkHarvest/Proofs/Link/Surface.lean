import LinkHarvest.Proofs.Link.Dispatch

/-!
# The surface of a link

The letter case of its identifier and the white space around it are the surface of a link: what the
link is decoded to does not depend on them (`decode_surface`). Trimmed, two links that differ
nowhere else are the same behind their identifiers and go to the same decoder. Each way to parse
a link looks at the identifier only to recognise it: a URI-shaped link is cut into the same parts,
with its scheme in lower case, and the other decoders drop the identifier.
-/

namespace LinkHarvest.Link

variable {scheme identifier start rest t u : Text} {d : Decoder}

/-- Two results of decoding that differ at most in the link that a failure names. -/
inductive SameOutcome : Decoded → Decoded → Prop
  | decoded (s : Summary) : SameOutcome (.ok s) (.ok s)
  | failed {f g : Failure} (reason : f.reason = g.reason) (hint : f.hint = g.hint) :
    SameOutcome (.error f) (.error g)

theorem Decoder.sameOutcome (h : d.parse t = d.parse u) :
    SameOutcome (d.decode t) (d.decode u) := by
  unfold decode
  rw [h]
  cases d.parse u with
  | error p => exact .failed rfl rfl
  | ok s => exact .decoded s

/-! ## The scheme in any letter case -/

namespace Identifies

theorem exists_start (h : Identifies scheme identifier)
    (hstart : start.map Char.toLower = identifier) :
    ∃ s, start = s ++ "://".toList ∧ s.map Char.toLower = scheme ∧
      (∃ c rest, s = c :: rest ∧ c.isAlpha = true) ∧ s.all Url.isSchemeChar = true := by
  rw [h.eq] at hstart
  obtain ⟨s, mark, rfl, hs, hmark⟩ := List.map_eq_append_iff.mp hstart
  have hcolon : mark = "://".toList := by
    obtain ⟨a, rest, rfl, ha, hrest⟩ := List.map_eq_cons_iff.mp hmark
    obtain ⟨b, rest, rfl, hb, hrest⟩ := List.map_eq_cons_iff.mp hrest
    obtain ⟨c, rest, rfl, hc, hrest⟩ := List.map_eq_cons_iff.mp hrest
    rw [List.map_eq_nil_iff.mp hrest, Text.eq_of_toLower (by decide) ha,
      Text.eq_of_toLower (by decide) hb, Text.eq_of_toLower (by decide) hc]
    rfl
  refine ⟨s, by rw [hcolon], hs, ?_, ?_⟩
  · obtain ⟨c, rest, hscheme, halpha⟩ := h.start
    obtain ⟨a, rest, rfl, ha, -⟩ := List.map_eq_cons_iff.mp (hs.trans hscheme)
    refine ⟨a, rest, rfl, ?_⟩
    rcases Text.toLower_eq_or_isUpper a with hsame | hupper
    · rwa [← hsame, ha]
    · show (a.isUpper || a.isLower) = true
      rw [hupper, Bool.true_or]
  · refine List.all_eq_true.mpr fun a ha => ?_
    have hlower : Url.isSchemeChar a.toLower = true :=
      List.all_eq_true.mp h.chars _ (hs ▸ List.mem_map_of_mem ha)
    rcases Text.toLower_eq_or_isUpper a with hsame | hupper
    · rwa [hsame] at hlower
    · rw [Url.isSchemeChar, Text.isAlphanum_iff.mpr (.inl hupper)]
      rfl

theorem cutScheme_start (h : Identifies scheme identifier)
    (hstart : start.map Char.toLower = identifier) (rest : Text) :
    Url.cutScheme (Url.cleaned (start ++ rest)) =
      (scheme, '/' :: '/' :: Text.without rest ['\t', '\r', '\n']) := by
  rw [Url.cleaned_append (h.visible_start hstart) (h.start_ne_nil hstart)]
  obtain ⟨s, rfl, rfl, halpha, hchars⟩ := h.exists_start hstart
  rw [List.append_assoc]
  exact Url.cutScheme_append halpha hchars _

theorem split_start (h : Identifies scheme identifier)
    (hstart : start.map Char.toLower = identifier) (rest : Text) :
    Url.split (start ++ rest) = Url.split (identifier ++ rest) := by
  unfold Url.split
  rw [h.cutScheme_start hstart, h.cutScheme_start h.map_toLower]

end Identifies

/-! ## Parsing behind the identifier -/

theorem UriGrammar.parse_start {g : UriGrammar} (h : identifier ∈ g.identifiers)
    (hscheme : Identifies scheme identifier) (hstart : start.map Char.toLower = identifier)
    (rest : Text) : g.parse (start ++ rest) = g.parse (identifier ++ rest) := by
  unfold parse
  rw [startsWithAny_of_mem h hscheme hstart, startsWithAny_of_mem h hscheme hscheme.map_toLower,
    hscheme.split_start hstart]
  rfl

theorem stripIdentifier_start (hscheme : Identifies scheme identifier)
    (hstart : start.map Char.toLower = identifier) (protocol rest : Text) :
    stripIdentifier protocol [identifier] (start ++ rest) =
      stripIdentifier protocol [identifier] (identifier ++ rest) := by
  rw [stripIdentifier_append hscheme.visible hstart,
    stripIdentifier_append hscheme.visible hscheme.map_toLower]

theorem Vmess.parse_start (hscheme : Identifies scheme "vmess://".toList)
    (hstart : start.map Char.toLower = "vmess://".toList) (rest : Text) :
    parse (start ++ rest) = parse ("vmess://".toList ++ rest) := by
  unfold parse identifiers
  rw [stripIdentifier_start hscheme hstart]

theorem Shadowsocks.parse_start (hscheme : Identifies scheme "ss://".toList)
    (hstart : start.map Char.toLower = "ss://".toList) (rest : Text) :
    parse (start ++ rest) = parse ("ss://".toList ++ rest) := by
  unfold parse identifiers
  rw [stripIdentifier_start hscheme hstart]

theorem parse_start (h : (identifier, d) ∈ Registry.default)
    (hstart : start.map Char.toLower = identifier) (rest : Text) :
    d.parse (start ++ rest) = d.parse (identifier ++ rest) := by
  have hkey : identifier ∈ Registry.default.map Prod.fst := List.mem_map_of_mem h
  obtain ⟨scheme, hscheme⟩ := exists_scheme_of_mem hkey
  obtain ⟨hd, hname⟩ := (Registry.mem_ofList.mp h).mem
  have huri : ∀ g ∈ uriGrammars, identifier ∈ g.decoder.names →
      g.parse (start ++ rest) = g.parse (identifier ++ rest) := by
    intro g hg hmem
    have hnames : g.decoder.names = g.identifiers := by fin_cases hg <;> rfl
    exact UriGrammar.parse_start (hnames ▸ hmem) hscheme hstart rest
  fin_cases hd
  · exact huri vless (by simp [uriGrammars]) hname
  · cases List.mem_singleton.mp hname
    exact Vmess.parse_start hscheme hstart rest
  · exact huri trojan (by simp [uriGrammars]) hname
  · cases List.mem_singleton.mp hname
    exact Shadowsocks.parse_start hscheme hstart rest
  · exact huri hysteria2 (by simp [uriGrammars]) hname
  · exact huri tuic (by simp [uriGrammars]) hname
  · exact huri wireguard (by simp [uriGrammars]) hname
  · exact huri socks (by simp [uriGrammars]) hname

/-! ## Decoding -/

/-- **The surface of a link does not matter**: neither the letter case of its identifier nor the
white space around it. -/
theorem decode_surface {before after : Text} (h : identifier ∈ Registry.default.map Prod.fst)
    (hstart : start.map Char.toLower = identifier) (hbefore : ∀ c ∈ before, Text.isBlank c = true)
    (hafter : ∀ c ∈ after, Text.isBlank c = true) (rest : Text) :
    SameOutcome (Registry.default.decode (Text.trim (identifier ++ rest)))
      (Registry.default.decode (before ++ start ++ rest ++ after)) := by
  obtain ⟨⟨identifier, d⟩, hmem, rfl⟩ := List.mem_map.mp h
  obtain ⟨scheme, hscheme⟩ := exists_scheme_of_mem h
  have htrim : ∀ {start : Text}, start.map Char.toLower = identifier →
      Text.trim (start ++ rest) = start ++ Text.trimEnd rest := fun hstart =>
    (hscheme.visible_start hstart).tight.trim_append (hscheme.start_ne_nil hstart) rest
  have hplain : Text.trim (identifier ++ rest) = identifier ++ Text.trimEnd rest :=
    htrim hscheme.map_toLower
  have hwrapped : Text.trim (before ++ start ++ rest ++ after) = start ++ Text.trimEnd rest := by
    rw [Text.trim_append_of_blank hafter, List.append_assoc, ← htrim hstart, Text.trim,
      Text.trimStart_append_of_blank hbefore]
    rfl
  rw [Registry.decode, Registry.decode, Text.trim_trim, hplain, hwrapped,
    find?_of_identifier hmem hstart, find?_of_identifier hmem hscheme.map_toLower]
  exact Decoder.sameOutcome (parse_start hmem hstart _).symm

/-- What may follow the identifier of a link, with capitals that look at their neighbours. -/
def capitals : Text := "pw@Host:1#ΣΑΣ"

theorem decode_surface_capitals :
    (Registry.default.decode ("hy2://".toList ++ capitals)).toOption.isSome = true ∧
      SameOutcome (Registry.default.decode (Text.trim ("hy2://".toList ++ capitals)))
        (Registry.default.decode ("\t ".toList ++ "Hy2://".toList ++ capitals ++ "\n".toList)) := by
  have hkey : "hy2://".toList ∈ Registry.default.map Prod.fst := by decide +kernel
  have hbefore : ∀ c ∈ "\t ".toList, Text.isBlank c = true := Text.forall_mem_of_all (by decide)
  have hafter : ∀ c ∈ "\n".toList, Text.isBlank c = true := Text.forall_mem_of_all (by decide)
  exact ⟨by decide +kernel, decode_surface hkey (by rfl) hbefore hafter capitals⟩

end LinkHarvest.Link
