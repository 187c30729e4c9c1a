import LinkHarvest.Proofs.Link.Registry
import LinkHarvest.Proofs.Text.Case

/-!
# What a decoder makes of the links that it is found for

A registry knows decoders under their identifiers in lower case. A decoder itself compares the start
of a link in lower case with its identifiers as they are spelled, once with as much of the link as
its longest identifier has characters and once with all of it. These two tests agree
(`startsWithAny_iff`, `leadingIdentifier?_eq_none`), so a decoder either takes a link or calls it
unrecognised (`Decoder.Takes`, `Decoder.Refuses`). It takes the links that it is found for if its
identifiers are in lower case, and refuses those that only start with another identifier
(`takes_of_find?`).
-/

namespace LinkHarvest.Link

open Text

variable {identifiers : List Text} {i t link : Text} {d : Decoder} {ds : List Decoder}

/-! ## The two tests of a decoder -/

theorem le_foldl_max {n : Nat} {ns : List Nat} (h : n ∈ ns) (start : Nat) :
    n ≤ ns.foldl max start := by
  have hstart : ∀ (ns : List Nat) (m : Nat), m ≤ ns.foldl max m := by
    intro ns
    induction ns with
    | nil => intro m; exact le_rfl
    | cons k ns ih => intro m; exact (le_max_left m k).trans (ih (max m k))
  induction ns generalizing start with
  | nil => cases h
  | cons k ns ih =>
    rcases List.mem_cons.mp h with rfl | h
    · exact (le_max_right start n).trans (hstart ns _)
    · exact ih h _

theorem startsWithAny_eq_true : startsWithAny identifiers t = true ↔ ∃ i ∈ identifiers,
    i <+: lower (t.take ((identifiers.map List.length).foldl max 0)) := by
  unfold startsWithAny
  dsimp only
  rw [List.any_eq_true]
  simp only [startsWith, List.isPrefixOf_iff_prefix]

/-- Whether a decoder looks at enough of a link does not matter. -/
theorem prefix_lower_longest (hi : i ∈ identifiers) (h : Certain t i) :
    i <+: lower (t.take ((identifiers.map List.length).foldl max 0)) ↔ i <+: lower t :=
  prefix_lower_take h (le_foldl_max (List.mem_map_of_mem hi) 0)

theorem startsWithAny_iff (h : ∀ i ∈ identifiers, Certain t i) :
    startsWithAny identifiers t = true ↔ ∃ i ∈ identifiers, i <+: lower t := by
  rw [startsWithAny_eq_true]
  exact exists_congr fun i => and_congr_right fun hi => prefix_lower_longest hi (h i hi)

-- Without certainty the tests differ: a sigma is lowered as the last one where the link is cut off.
example : "ασ".toList <+: lower "ΑΣΑ" ∧ startsWithAny ["ασ"] "ΑΣΑ" = false := by decide +kernel

theorem leadingIdentifier?_eq_argmax (identifiers : List Text) (t : Text) :
    leadingIdentifier? identifiers t =
      (identifiers.filter fun i => (lower t).startsWith i).argmax List.length := by
  unfold leadingIdentifier?
  split
  · rename_i hnil
    rw [hnil]
    rfl
  · rename_i first rest hcons
    rw [hcons, argmax_cons_eq_foldl]
    rfl

theorem leadingIdentifier?_eq_none :
    leadingIdentifier? identifiers t = none ↔ ¬ ∃ i ∈ identifiers, i <+: lower t := by
  rw [leadingIdentifier?_eq_argmax, List.argmax_eq_none, List.filter_eq_nil_iff]
  simp [startsWith]

theorem of_leadingIdentifier? (h : leadingIdentifier? identifiers t = some i) :
    i ∈ identifiers ∧ i <+: lower t := by
  rw [leadingIdentifier?_eq_argmax] at h
  obtain ⟨hi, hstart⟩ := List.mem_filter.mp (List.argmax_mem h)
  exact ⟨hi, List.isPrefixOf_iff_prefix.mp hstart⟩

/-- A decoder takes a link: it accepts it and finds one of its identifiers at the start of it. -/
structure Decoder.Takes (d : Decoder) (t : Text) : Prop where
  accepts : d.accepts t = true
  strips : ∃ start rest, t = start ++ rest ∧ lower start ∈ d.identifiers ∧
    stripIdentifier d.protocol d.identifiers t = .ok rest

/-- A decoder calls a link unrecognised. -/
structure Decoder.Refuses (d : Decoder) (t : Text) : Prop where
  accepts : d.accepts t = false
  strips : stripIdentifier d.protocol d.identifiers t = .error (.unrecognised d.protocol t)

theorem Decoder.takes_of_leads (h : ∀ i ∈ d.identifiers, Certain t i)
    (hstart : ∃ i ∈ d.identifiers, i <+: lower t) : d.Takes t := by
  refine ⟨(startsWithAny_iff h).mpr hstart, ?_⟩
  cases hleading : leadingIdentifier? d.identifiers t with
  | none => exact absurd hstart (leadingIdentifier?_eq_none.mp hleading)
  | some i =>
    obtain ⟨hi, hleads⟩ := of_leadingIdentifier? hleading
    obtain ⟨start, rest, rfl, hlength, hsigma, himage⟩ := exists_start (h i hi) hleads
    refine ⟨start, rest, rfl, ?_, ?_⟩
    · rw [lower_eq_flatMap hsigma, himage]
      exact hi
    · rw [stripIdentifier, hleading]
      show Except.ok ((start ++ rest).drop i.length) = _
      rw [← hlength, List.drop_left]

theorem Decoder.refuses_of_not_leads (h : ∀ i ∈ d.identifiers, Certain t i)
    (hstart : ¬ ∃ i ∈ d.identifiers, i <+: lower t) : d.Refuses t := by
  constructor
  · exact Bool.eq_false_iff.mpr (mt (startsWithAny_iff h).mp hstart)
  · rw [stripIdentifier, leadingIdentifier?_eq_none.mpr hstart]

-- The dotted capital is one character of the link and two of the identifier, so what follows it is
-- dropped as well.
example : stripIdentifier "up" ["i̇:"] "İ:x" = .ok [] := by rfl

/-! ## The decoder that is found -/

/-- Nothing in a link leaves it in doubt which of its characters are an identifier of a decoder, and
no identifier ends in what is trimmed off the link. -/
structure Decoder.Legible (d : Decoder) (link : Text) : Prop where
  certain : ∀ i ∈ d.identifiers, Certain link i
  ends : (∃ c, link.getLast? = some c ∧ isBlank c = true) →
    ∀ x ∈ d.names, ∀ c, x.getLast? = some c → isBlank c = false

theorem Decoder.legible_of_visible (d : Decoder) (h : Visible link) : d.Legible link := by
  refine ⟨fun i _ => ⟨fun hsigma => ?_, fun hdotted => ?_⟩, fun ⟨c, hc, hblank⟩ => ?_⟩
  · exact absurd (h _ hsigma).2 (by decide)
  · exact absurd (h _ hdotted).2 (by decide)
  · rw [h.isBlank (List.mem_of_getLast? hc)] at hblank
    cases hblank

theorem Decoder.Legible.prefix_lower_trim {x : Text} (h : d.Legible link) (hx : x ∈ d.names)
    (hleads : x <+: Registry.leadOf link) : x <+: lower (trim link) := by
  obtain ⟨u, -, hstart⟩ := exists_trimStart link
  obtain ⟨v, hv, hend⟩ := exists_trimEnd (trimStart link)
  rw [Registry.leadOf, hend, lower_append_of_blank hv] at hleads
  cases hlast : v.getLast? with
  | none =>
    rwa [List.getLast?_eq_none_iff.mp hlast, List.append_nil] at hleads
  | some c =>
    have hblank : link.getLast? = some c := by
      rw [hstart, hend, ← List.append_assoc, List.getLast?_append, hlast]
      rfl
    exact prefix_of_prefix_append
      (h.ends ⟨c, hblank, hv c (List.mem_of_getLast? hlast)⟩ x hx) hv hleads

-- What identifiers end in may be trimmed off the link.
example : "foo ".toList <+: lower (trimStart "foo ") ∧ ¬ "foo ".toList <+: lower (trim "foo ") := by
  decide

/-- **The decoder that is found for a link** takes it if one of its identifiers, as it is spelled,
starts the link in lower case. Otherwise it calls the link unrecognised, and it was found by an
identifier that is not spelled in lower case. -/
theorem takes_of_find? (hfind : (Registry.ofList ds).find? link = some d) (h : d.Legible link) :
    (d.Takes (trim link) ↔ ∃ i ∈ d.identifiers, i <+: lower (trim link)) ∧
    (d.Takes (trim link) ∨ d.Refuses (trim link) ∧
      ∃ i ∈ d.identifiers, lower i ≠ i ∧ lower i <+: lower (trim link)) ∧
    ((∀ i ∈ d.identifiers, lower i = i) → d.Takes (trim link)) := by
  have hcertain : ∀ i ∈ d.identifiers, Certain (trim link) i := fun i hi =>
    (h.certain i hi).mono (trim_subset link)
  obtain ⟨x, hentry, hleads, -⟩ := (Registry.distinct_ofList ds).find?_eq_some.mp hfind
  have hname := (Registry.mem_ofList.mp hentry).mem.2
  have hfound := h.prefix_lower_trim hname hleads
  obtain ⟨i, hi, rfl⟩ := List.mem_map.mp hname
  have hiff : d.Takes (trim link) ↔ ∃ i ∈ d.identifiers, i <+: lower (trim link) :=
    ⟨fun htakes => (startsWithAny_iff hcertain).mp htakes.accepts, Decoder.takes_of_leads hcertain⟩
  refine ⟨hiff, ?_, fun hlower => hiff.mpr ⟨i, hi, hlower i hi ▸ hfound⟩⟩
  by_cases hstart : ∃ i ∈ d.identifiers, i <+: lower (trim link)
  · exact .inl (hiff.mpr hstart)
  · refine .inr ⟨Decoder.refuses_of_not_leads hcertain hstart, i, hi, fun hlower => ?_, hfound⟩
    exact hstart ⟨i, hi, hlower ▸ hfound⟩

/-- A decoder with an identifier that is not in lower case. -/
def shouting : Decoder where
  protocol := "up"
  identifiers := ["VLESS://".toList, "foo://".toList]
  parse link := (stripIdentifier "up" ["VLESS://".toList, "foo://".toList] link).map fun rest =>
    ⟨"up", [], .ofText rest, []⟩

/-- It is found for links with either identifier, and refuses those with the first one. -/
theorem takes_of_find?_shouting :
    shouting.Takes "foo://x".toList ∧ shouting.Refuses "vless://x".toList := by
  have hfoo : (Registry.ofList [shouting]).find? "foo://x".toList = some shouting := by rfl
  have hvless : (Registry.ofList [shouting]).find? "vless://x".toList = some shouting := by rfl
  have hvisible : Visible "foo://x".toList ∧ Visible "vless://x".toList := by
    constructor <;> exact forall_mem_of_all (by decide)
  have htakes := takes_of_find? hfoo (shouting.legible_of_visible hvisible.1)
  have hrefuses := takes_of_find? hvless (shouting.legible_of_visible hvisible.2)
  rw [hvisible.1.trim] at htakes
  rw [hvisible.2.trim] at hrefuses
  refine ⟨htakes.1.mpr ⟨"foo://".toList, by decide, by decide⟩, ?_⟩
  exact (hrefuses.2.1.resolve_left fun h => absurd h.accepts (by decide)).1

end LinkHarvest.Link
