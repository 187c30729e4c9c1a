import LinkHarvest.Link.Registry
import Mathlib.Data.List.MinMax
import Mathlib.Data.List.Perm.Basic

/-!
# The decoder that a registry finds

What a registry holds under an identifier is the decoder that was registered last with it
(`lookup_ofList`), and no identifier stands twice in it. So among the identifiers with which a link
starts there is one longest, and only one entry has it: the decoder that is found depends on what
the registry holds and not on the order (`find?_eq_some`). In which order decoders are registered
matters only where they have an identifier in common (`find?_ofList`).
-/

namespace LinkHarvest.Link

/-- The identifiers of a decoder, in the letter case in which it is registered. -/
def Decoder.names (d : Decoder) : List Text := d.identifiers.map Text.lower

/-- Keeping the longer of two, again and again, gives a longest one. -/
theorem argmax_cons_eq_foldl {α : Type} (size : α → Nat) (first : α) (rest : List α) :
    (first :: rest).argmax size =
      some (rest.foldl (fun a b => if size a < size b then b else a) first) := by
  unfold List.argmax
  rw [List.foldl_cons]
  change rest.foldl _ (some first) = _
  induction rest generalizing first with
  | nil => rfl
  | cons b rest ih =>
    rw [List.foldl_cons, List.foldl_cons, ← ih]
    congr 1
    exact (apply_ite some _ _ _).symm

namespace Registry

variable {r : Registry} {ds ds' : List Decoder} {d e : Decoder} {x : Text} {link : Text}

/-! ## What is registered under an identifier -/

theorem lookup_cons (i : Text) (e : Decoder) (r : Registry) (x : Text) :
    List.lookup x ((i, e) :: r) = if x = i then some e else r.lookup x := by
  rw [List.lookup_cons]
  by_cases h : x = i
  · rw [if_pos h, beq_iff_eq.mpr h]
  · rw [if_neg h, beq_false_of_ne h]

theorem lookup_bind (r : Registry) (i : Text) (d : Decoder) (x : Text) :
    (r.bind i d).lookup x = if x = i then some d else r.lookup x := by
  induction r with
  | nil => exact lookup_cons i d [] x
  | cons entry r ih =>
    obtain ⟨j, e⟩ := entry
    rw [bind]
    split
    · rename_i hj
      rw [lookup_cons, lookup_cons, hj]
      split <;> rfl
    · rename_i hj
      rw [lookup_cons, lookup_cons, ih]
      -- Both sides ask for `x` once more under another identifier.
      by_cases h : x = j
      · rw [if_pos h, if_neg (h ▸ hj), if_pos h]
      · rw [if_neg h, if_neg h]

theorem lookup_register (r : Registry) (d : Decoder) (x : Text) :
    (r.register d).lookup x = if x ∈ d.names then some d else r.lookup x := by
  unfold register Decoder.names
  induction d.identifiers generalizing r with
  | nil => simp
  | cons i identifiers ih =>
    rw [List.foldl_cons, ih, lookup_bind, List.map_cons]
    by_cases hx : x ∈ identifiers.map Text.lower
    · rw [if_pos hx, if_pos (List.mem_cons_of_mem _ hx)]
    · by_cases hi : x = Text.lower i <;> simp [hx, hi]

/-- No later decoder has the identifier `x`. -/
def RegisteredLast (ds : List Decoder) (x : Text) (d : Decoder) : Prop :=
  ∃ earlier later, ds = earlier ++ d :: later ∧ x ∈ d.names ∧ ∀ e ∈ later, x ∉ e.names

theorem ofList_concat (ds : List Decoder) (d : Decoder) :
    ofList (ds ++ [d]) = (ofList ds).register d := List.foldl_concat ..

theorem registeredLast_concat : RegisteredLast (ds ++ [e]) x d ↔
    if x ∈ e.names then e = d else RegisteredLast ds x d := by
  constructor
  · rintro ⟨earlier, later, hds, hx, hlater⟩
    rcases List.eq_nil_or_concat' later with rfl | ⟨later, e', rfl⟩
    · cases (List.append_inj' hds rfl).2
      rw [if_pos hx]
    · rw [← List.cons_append, ← List.append_assoc] at hds
      obtain ⟨rfl, heq⟩ := List.append_inj' hds rfl
      cases heq
      rw [if_neg (hlater e (by simp))]
      exact ⟨earlier, later, rfl, hx, fun e' he' => hlater e' (List.mem_append_left _ he')⟩
  · intro h
    split at h
    · rename_i hx
      subst h
      exact ⟨ds, [], rfl, hx, fun e' he' => nomatch he'⟩
    · rename_i hx
      obtain ⟨earlier, later, rfl, hd, hlater⟩ := h
      refine ⟨earlier, later ++ [e], by simp, hd, fun e' he' => ?_⟩
      rcases List.mem_append.mp he' with he' | he'
      · exact hlater e' he'
      · rwa [List.mem_singleton.mp he']

theorem lookup_ofList : (ofList ds).lookup x = some d ↔ RegisteredLast ds x d := by
  induction ds using List.reverseRecOn with
  | nil =>
    constructor
    · intro h
      cases h
    · rintro ⟨earlier, later, h, -⟩
      cases List.append_ne_nil_of_right_ne_nil earlier (List.cons_ne_nil d later) h.symm
  | append_singleton ds e ih =>
    rw [ofList_concat, lookup_register, registeredLast_concat]
    split
    · exact Option.some_inj
    · exact ih

/-- No identifier stands twice in a registry. -/
def Distinct (r : Registry) : Prop := (r.map Prod.fst).Nodup

theorem mem_keys_bind {i : Text} (h : x ∈ (r.bind i d).map Prod.fst) :
    x = i ∨ x ∈ r.map Prod.fst := by
  induction r with
  | nil => exact .inl (List.mem_singleton.mp h)
  | cons entry r ih =>
    obtain ⟨j, e⟩ := entry
    rw [bind] at h
    split at h
    · exact .inr h
    · rcases List.mem_cons.mp h with rfl | h
      · exact .inr List.mem_cons_self
      · exact (ih h).imp_right (List.mem_cons_of_mem _)

theorem Distinct.bind (h : r.Distinct) (i : Text) (d : Decoder) : (r.bind i d).Distinct := by
  unfold Distinct at *
  induction r with
  | nil => exact List.pairwise_singleton _ i
  | cons entry r ih =>
    obtain ⟨j, e⟩ := entry
    obtain ⟨hj, hr⟩ := List.nodup_cons.mp h
    rw [Registry.bind]
    split
    · exact h
    · rename_i hne
      exact List.nodup_cons.mpr ⟨fun hmem => (mem_keys_bind hmem).elim hne hj, ih hr⟩

theorem Distinct.register (h : r.Distinct) (d : Decoder) : (r.register d).Distinct := by
  unfold Registry.register
  induction d.identifiers generalizing r with
  | nil => exact h
  | cons i identifiers ih => exact ih (h.bind _ d)

theorem distinct_ofList (ds : List Decoder) : (ofList ds).Distinct := by
  induction ds using List.reverseRecOn with
  | nil => exact List.nodup_nil
  | append_singleton ds d ih =>
    rw [ofList_concat]
    exact ih.register d

theorem Distinct.mem_iff (h : r.Distinct) : (x, d) ∈ r ↔ r.lookup x = some d := by
  induction r with
  | nil => simp
  | cons entry r ih =>
    obtain ⟨j, e⟩ := entry
    obtain ⟨hj, hr⟩ := List.nodup_cons.mp h
    rw [lookup_cons, List.mem_cons, ih hr, Prod.mk.injEq]
    split
    · rename_i hx
      have hnone : r.lookup x ≠ some d := fun hlookup =>
        hj (List.mem_map.mpr ⟨(x, d), (ih hr).mpr hlookup, hx⟩)
      simp [hx, hx ▸ hnone, eq_comm]
    · rename_i hx
      simp [hx]

theorem mem_ofList : (x, d) ∈ ofList ds ↔ RegisteredLast ds x d :=
  (distinct_ofList ds).mem_iff.trans lookup_ofList

/-! ## The longest identifier -/

/-- The start of a link, as identifiers are compared with it. -/
def leadOf (link : Text) : Text := Text.lower (Text.trimStart link)

theorem find?_eq_argmax (r : Registry) (link : Text) :
    r.find? link = ((r.filter fun entry => (leadOf link).startsWith entry.1).argmax
      fun entry => entry.1.length).map Prod.snd := by
  unfold find? leadOf
  dsimp only
  split
  · rename_i hnil
    rw [hnil]
    rfl
  · rename_i first rest hcons
    rw [hcons, argmax_cons_eq_foldl]
    rfl

theorem find?_eq_none : r.find? link = none ↔ ∀ entry ∈ r, ¬ entry.1 <+: leadOf link := by
  rw [find?_eq_argmax, Option.map_eq_none_iff, List.argmax_eq_none, List.filter_eq_nil_iff]
  simp [Text.startsWith]

theorem Distinct.find?_eq_some (h : r.Distinct) : r.find? link = some d ↔
    ∃ x, (x, d) ∈ r ∧ x <+: leadOf link ∧
      ∀ entry ∈ r, entry.1 <+: leadOf link → entry.1.length ≤ x.length := by
  rw [find?_eq_argmax, Option.map_eq_some_iff]
  constructor
  · rintro ⟨⟨x, d⟩, hmax, rfl⟩
    obtain ⟨hmem, hstart⟩ := List.mem_filter.mp (List.argmax_mem hmax)
    refine ⟨x, hmem, List.isPrefixOf_iff_prefix.mp hstart, fun entry hentry hleads => ?_⟩
    have hcandidate := List.mem_filter (p := fun entry => (leadOf link).startsWith entry.1).mpr
      ⟨hentry, List.isPrefixOf_iff_prefix.mpr hleads⟩
    have hle := List.le_of_mem_argmax hcandidate hmax
    exact hle
  · rintro ⟨x, hmem, hstart, hlongest⟩
    have hcandidate := List.mem_filter (p := fun entry => (leadOf link).startsWith entry.1).mpr
      ⟨hmem, List.isPrefixOf_iff_prefix.mpr hstart⟩
    cases hmax : (r.filter fun entry => (leadOf link).startsWith entry.1).argmax
        fun entry => entry.1.length with
    | none => cases List.argmax_eq_none.mp hmax ▸ hcandidate
    | some best =>
      refine ⟨best, rfl, ?_⟩
      obtain ⟨hbest, hbestStart⟩ := List.mem_filter.mp (List.argmax_mem hmax)
      have hbestPrefix := List.isPrefixOf_iff_prefix.mp hbestStart
      -- Starts of one text that are equally long are equal.
      have hle := List.le_of_mem_argmax hcandidate hmax
      have hkey : best.1 = x := List.IsPrefix.eq_of_length
        (List.prefix_of_prefix_length_le hbestPrefix hstart (hlongest best hbest hbestPrefix))
        (le_antisymm (hlongest best hbest hbestPrefix) hle)
      have hentry : (x, best.2) ∈ r := hkey ▸ hbest
      exact Option.some_inj.mp ((h.mem_iff.mp hentry).symm.trans (h.mem_iff.mp hmem))

theorem Distinct.find?_of_mem (h : r.Distinct)
    (hfree : ∀ y ∈ r.map Prod.fst, ∀ z ∈ r.map Prod.fst, y <+: z → y = z) (hmem : (x, d) ∈ r)
    (hstart : x <+: leadOf link) : r.find? link = some d := by
  refine h.find?_eq_some.mpr ⟨x, hmem, hstart, fun entry hentry hleads => ?_⟩
  have hx : x ∈ r.map Prod.fst := List.mem_map_of_mem hmem
  have hy : entry.1 ∈ r.map Prod.fst := List.mem_map_of_mem hentry
  rcases List.prefix_or_prefix_of_prefix hleads hstart with hle | hle
  · exact (congrArg List.length (hfree _ hy _ hx hle)).le
  · exact (congrArg List.length (hfree _ hx _ hy hle)).ge

/-! ## Decoders in another order -/

/-- `x` is an identifier of one of the decoders, and a link starts with it. -/
def Leads (ds : List Decoder) (link x : Text) : Prop :=
  (∃ d ∈ ds, x ∈ d.names) ∧ x <+: leadOf link

theorem exists_registeredLast (h : ∃ d ∈ ds, x ∈ d.names) : ∃ d, RegisteredLast ds x d := by
  induction ds using List.reverseRecOn with
  | nil =>
    obtain ⟨d, hd, -⟩ := h
    cases hd
  | append_singleton ds e ih =>
    by_cases hx : x ∈ e.names
    · exact ⟨e, registeredLast_concat.mpr (by rw [if_pos hx])⟩
    · obtain ⟨d, hd, hxd⟩ := h
      rcases List.mem_append.mp hd with hd | hd
      · obtain ⟨d, hlast⟩ := ih ⟨d, hd, hxd⟩
        exact ⟨d, registeredLast_concat.mpr (by rwa [if_neg hx])⟩
      · rw [List.mem_singleton.mp hd] at hxd
        exact absurd hxd hx

theorem RegisteredLast.mem (h : RegisteredLast ds x d) : d ∈ ds ∧ x ∈ d.names := by
  obtain ⟨earlier, later, rfl, hx, -⟩ := h
  exact ⟨List.mem_append_right _ List.mem_cons_self, hx⟩

theorem leads_iff : Leads ds link x ↔ (∃ d, (x, d) ∈ ofList ds) ∧ x <+: leadOf link := by
  refine and_congr_left' ⟨fun h => ?_, fun ⟨d, h⟩ => ⟨d, (mem_ofList.mp h).mem⟩⟩
  exact (exists_registeredLast h).imp fun d => mem_ofList.mpr

theorem registeredLast_iff (h : ds.Pairwise fun d e => d.names.Disjoint e.names) :
    RegisteredLast ds x d ↔ d ∈ ds ∧ x ∈ d.names := by
  refine ⟨RegisteredLast.mem, fun ⟨hd, hx⟩ => ?_⟩
  obtain ⟨earlier, later, rfl⟩ := List.append_of_mem hd
  have hlater := (List.pairwise_cons.mp (List.pairwise_append.mp h).2.1).1
  exact ⟨earlier, later, rfl, hx, fun e he => hlater e he hx⟩

theorem find?_congr {r' : Registry} (h : r.Distinct) (h' : r'.Distinct)
    (hmem : ∀ entry, entry ∈ r ↔ entry ∈ r') (link : Text) : r.find? link = r'.find? link := by
  apply Option.ext
  intro d
  rw [h.find?_eq_some, h'.find?_eq_some]
  simp only [hmem]

theorem find?_perm (hperm : ds.Perm ds') (h : ds.Pairwise fun d e => d.names.Disjoint e.names)
    (link : Text) : (ofList ds').find? link = (ofList ds).find? link := by
  have h' : ds'.Pairwise fun d e => d.names.Disjoint e.names :=
    (hperm.pairwise_iff List.disjoint_symm).mp h
  refine find?_congr (distinct_ofList ds') (distinct_ofList ds) (fun entry => ?_) link
  rw [mem_ofList, mem_ofList, registeredLast_iff h, registeredLast_iff h', hperm.mem_iff]

theorem decode_congr {r' : Registry} (h : ∀ link, r.find? link = r'.find? link) (link : Text) :
    r.decode link = r'.decode link := by
  rw [decode, decode, h]

/-- **The decoder of a link** is the one that was registered last under the longest identifier with
which the link starts. So the order of decoders without a common identifier does not matter. -/
theorem find?_ofList (ds : List Decoder) (link : Text) :
    (∀ d, (ofList ds).find? link = some d ↔
      ∃ x, Leads ds link x ∧ (∀ y, Leads ds link y → y.length ≤ x.length) ∧
        RegisteredLast ds x d) ∧
    ((ofList ds).find? link = none ↔ ∀ x, ¬ Leads ds link x) ∧
    ∀ ds', ds.Perm ds' → (ds.Pairwise fun d e => d.names.Disjoint e.names) →
      (ofList ds').find? link = (ofList ds).find? link ∧
        (ofList ds').decode link = (ofList ds).decode link := by
  refine ⟨fun d => ?_, ?_, fun ds' hperm h => ⟨find?_perm hperm h link, ?_⟩⟩
  · rw [(distinct_ofList ds).find?_eq_some]
    refine exists_congr fun x => ?_
    rw [mem_ofList]
    constructor
    · rintro ⟨hlast, hstart, hlongest⟩
      refine ⟨⟨⟨d, hlast.mem⟩, hstart⟩, fun y hy => ?_, hlast⟩
      obtain ⟨⟨e, he⟩, hy⟩ := leads_iff.mp hy
      exact hlongest (y, e) he hy
    · rintro ⟨⟨-, hstart⟩, hlongest, hlast⟩
      exact ⟨hlast, hstart, fun entry he hleads =>
        hlongest entry.1 (leads_iff.mpr ⟨⟨entry.2, he⟩, hleads⟩)⟩
  · rw [find?_eq_none]
    constructor
    · intro h x hx
      obtain ⟨⟨d, hd⟩, hstart⟩ := leads_iff.mp hx
      exact h (x, d) hd hstart
    · intro h entry he hstart
      exact h entry.1 (leads_iff.mpr ⟨⟨entry.2, he⟩, hstart⟩)
  · exact decode_congr (find?_perm hperm h) link

/-- A decoder for some of the links of another one. -/
def special : Decoder := { vless.decoder with identifiers := ["vless://special".toList] }

/-- The longer identifier wins, whichever decoder comes first. -/
theorem find?_ofList_special :
    (ofList [vless.decoder, special]).find? "VLESS://special@h:1".toList = some special ∧
      (ofList [special, vless.decoder]).find? "VLESS://special@h:1".toList = some special := by
  have hfind : (ofList [vless.decoder, special]).find? "VLESS://special@h:1".toList =
      some special := by rfl
  have hdisjoint : [vless.decoder, special].Pairwise fun d e => d.names.Disjoint e.names := by
    refine List.pairwise_pair.mpr fun x hx hx' => ?_
    rw [List.mem_singleton.mp hx] at hx'
    revert hx'
    decide
  have hswap := ((find?_ofList [vless.decoder, special] "VLESS://special@h:1".toList).2.2 _
    (.swap special vless.decoder []) hdisjoint).1
  exact ⟨hfind, hswap.trans hfind⟩

end Registry

end LinkHarvest.Link
