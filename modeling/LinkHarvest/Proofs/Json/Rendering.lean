import LinkHarvest.Proofs.Data.Value
import LinkHarvest.Proofs.Json.Tokens
import LinkHarvest.Proofs.Text.Visible

/-!
# JSON texts and the values they render

`Renders` is the grammar of JSON as a relation between texts and values, with white space wherever
it may stand, strings in any spelling and numbers in any form. Every text of the grammar is read as
the value that it renders (`Renders.read`, `read_document`).

The reader has one function for a value and one each for the rest of a list and of a mapping, so the
grammar speaks of three kinds of parts. The induction on it carries what each function makes of a
part with anything behind it that does not go on with a number. Two units of fuel for each character
are enough, since every character is left behind before the depth grows by more than two.
-/

namespace LinkHarvest.Json

variable {c : Char} {t w rest : Text}

/-! ## The grammar -/

/-- White space between tokens. -/
def Space (s : Text) : Prop := ∀ c ∈ s, isSpace c = true

/-- A value, the items of a list up to its bracket, or the members of a mapping up to its brace. -/
inductive Part
  | value (v : Value)
  | items (vs : List Value)
  | members (ms : List (LooseText × Value))

/-- The entries that members add to others. A key that is there already keeps its place. -/
def entriesAfter (seen : List (Value × Value)) (ms : List (LooseText × Value)) :
    List (Value × Value) :=
  ms.foldl (fun es m => Value.put es (.text m.1) m.2) seen

/-- A member's key, its colon and what follows. -/
def named (key space space' more : Text) : Text :=
  '"' :: (key ++ '"' :: (space ++ ':' :: (space' ++ more)))

inductive Renders : Text → Part → Prop
  | word {w : Text} {v : Value} (listed : (w, v) ∈ words) : Renders w (.value v)
  | number (n : Numeral) : Renders n.text (.value n.value)
  | string {w : Text} {t : LooseText} (spells : Spells w t) :
      Renders ('"' :: (w ++ ['"'])) (.value (.text t))
  | noItems {s : Text} (space : Space s) : Renders ('[' :: (s ++ [']'])) (.value (.list []))
  | list {s w : Text} {vs : List Value} (space : Space s) : Renders w (.items vs) →
      Renders ('[' :: (s ++ w)) (.value (.list vs))
  | noMembers {s : Text} (space : Space s) : Renders ('\x7b' :: (s ++ ['\x7d'])) (.value (.map []))
  | map {s w : Text} {ms : List (LooseText × Value)} (space : Space s) : Renders w (.members ms) →
      Renders ('\x7b' :: (s ++ w)) (.value (.map (entriesAfter [] ms)))
  | lastItem {w s : Text} {v : Value} (space : Space s) : Renders w (.value v) →
      Renders (w ++ (s ++ [']'])) (.items [v])
  | item {w s s' w' : Text} {v : Value} {vs : List Value} (space : Space s) (space' : Space s') :
      Renders w (.value v) → Renders w' (.items vs) →
      Renders (w ++ (s ++ ',' :: (s' ++ w'))) (.items (v :: vs))
  | lastMember {k s₁ s₂ w s₃ : Text} {key : LooseText} {v : Value} (spells : Spells k key)
      (space₁ : Space s₁) (space₂ : Space s₂) (space₃ : Space s₃) : Renders w (.value v) →
      Renders (named k s₁ s₂ (w ++ (s₃ ++ ['\x7d']))) (.members [(key, v)])
  | member {k s₁ s₂ w s₃ s₄ w' : Text} {key : LooseText} {v : Value}
      {ms : List (LooseText × Value)} (spells : Spells k key) (space₁ : Space s₁)
      (space₂ : Space s₂) (space₃ : Space s₃) (space₄ : Space s₄) : Renders w (.value v) →
      Renders w' (.members ms) →
      Renders (named k s₁ s₂ (w ++ (s₃ ++ ',' :: (s₄ ++ w')))) (.members ((key, v) :: ms))

/-! ## White space and first characters -/

theorem isSpace_iff : isSpace c = true ↔ c ∈ [' ', '\t', '\n', '\r'] := by
  simp [isSpace, or_assoc]

theorem skipSpace_append {s : Text} (hs : Space s) (h : ∀ c, t.head? = some c → isSpace c = false) :
    skipSpace (s ++ t) = t := by
  rw [skipSpace, List.dropWhile_append_of_pos hs]
  cases t with
  | nil => rfl
  | cons c t => exact List.dropWhile_cons_of_neg (by simp [h c rfl])

theorem skipSpace_append_cons {s : Text} (hs : Space s) (h : isSpace c = false) (t : Text) :
    skipSpace (s ++ c :: t) = c :: t :=
  skipSpace_append hs fun d hd => by
    cases hd
    exact h

theorem ends_append {s : Text} (hs : Space s) (h : Ends t) : Ends (s ++ t) := by
  cases s with
  | nil => exact h
  | cons d s =>
    intro c hc
    cases hc
    have hall : ∀ c ∈ [' ', '\t', '\n', '\r'],
        c.isDigit = false ∧ c ≠ '.' ∧ c ≠ 'e' ∧ c ≠ 'E' := Text.forall_mem_of_all (by decide)
    exact hall d (isSpace_iff.mp (hs d List.mem_cons_self))

theorem ends_cons (h : c ∈ [',', ']', '\x7d']) (t : Text) : Ends (c :: t) := by
  intro d hd
  cases hd
  have hall : ∀ c ∈ [',', ']', '\x7d'],
      c.isDigit = false ∧ c ≠ '.' ∧ c ≠ 'e' ∧ c ≠ 'E' := Text.forall_mem_of_all (by decide)
  exact hall c h

def startsValue (c : Char) : Bool := c.isDigit || "-\"[\x7bntfNI".toList.contains c

theorem startsValue_facts (h : startsValue c = true) :
    isSpace c = false ∧ c ≠ ']' ∧ c ≠ '\x7d' ∧ c ≠ '\uFEFF' := by
  have hne {d : Char} (hd : startsValue d = false) : c ≠ d := by
    rintro rfl
    rw [hd] at h
    cases h
  have hspace : isSpace c = false := by
    simp [isSpace, hne (d := ' ') (by decide), hne (d := '\t') (by decide),
      hne (d := '\n') (by decide), hne (d := '\r') (by decide)]
  exact ⟨hspace, hne (by decide), hne (by decide), hne (by decide)⟩

theorem Numeral.head (n : Numeral) :
    ∃ c rest, n.text = c :: rest ∧ (c = '-' ∨ c.isDigit = true) ∧
      (c = '-' → ∃ d more, rest = d :: more ∧ d.isDigit = true) := by
  obtain ⟨d, more, hwhole, hd⟩ := n.exists_whole
  unfold text magnitudeText
  rw [hwhole]
  cases n.negative with
  | true => exact ⟨_, _, rfl, .inl rfl, fun _ => ⟨d, _, rfl, hd⟩⟩
  | false =>
    refine ⟨d, _, rfl, .inr hd, ?_⟩
    rintro rfl
    cases hd

theorem Renders.head {p : Part} (h : Renders w p) :
    ∃ c rest, w = c :: rest ∧ startsValue c = true := by
  induction h with
  | word listed => fin_cases listed <;> exact ⟨_, _, rfl, by decide⟩
  | number n =>
    obtain ⟨c, rest, htext, hc, -⟩ := n.head
    refine ⟨c, rest, htext, ?_⟩
    rcases hc with rfl | hc
    · decide
    · rw [startsValue, hc]
      rfl
  | string | noItems | list | noMembers | map | lastMember | member => exact ⟨_, _, rfl, by decide⟩
  | lastItem _ _ ih | item _ _ _ _ ih =>
    obtain ⟨c, rest, rfl, hc⟩ := ih
    exact ⟨c, _, rfl, hc⟩

/-! ## Reading -/

theorem value_of_atom {fuel : Nat} (h : ∀ c, t.head? = some c → c ∉ ['"', '[', '\x7b']) :
    value (fuel + 1) t = atom t := by
  have hhead {c : Char} (hc : c ∈ ['"', '[', '\x7b']) (rest : Text) : t = c :: rest → False := by
    rintro rfl
    exact h c rfl hc
  rw [value]
  · exact hhead (by decide)
  · exact hhead (by decide)
  · exact hhead (by decide)

theorem atom_word {v : Value} (h : (w, v) ∈ words) (rest : Text) :
    atom (w ++ rest) = .ok (v, rest) := by
  fin_cases h <;> rfl

theorem words_start {w : Text × Value} (h : w ∈ words) :
    (∃ d more, w.1 = d :: more ∧ d ∈ "ntfNI".toList) ∨ ∃ more, w.1 = '-' :: 'I' :: more := by
  fin_cases h
  case «5» => exact .inr ⟨_, rfl⟩
  all_goals exact .inl ⟨_, _, rfl, by decide⟩

theorem atom_number (n : Numeral) (rest : Text) :
    atom (n.text ++ rest) = number (n.text ++ rest) := by
  obtain ⟨c, more, htext, hc, hminus⟩ := n.head
  have hletter : ∀ d ∈ "ntfNI".toList, d ≠ '-' ∧ d.isDigit = false :=
    Text.forall_mem_of_all (by decide)
  have hnone : words.find? (fun w => (n.text ++ rest).startsWith w.1) = none := by
    refine List.find?_eq_none.mpr fun w hw => ?_
    rw [htext, Text.startsWith, List.cons_append, List.isPrefixOf_iff_prefix]
    intro hstarts
    rcases words_start hw with ⟨d, more', heq, hd⟩ | ⟨more', heq⟩
    · rw [heq, List.cons_prefix_cons] at hstarts
      obtain ⟨hdash, hdigit⟩ := hletter d hd
      rw [hstarts.1] at hdash hdigit
      simp [hdash, hdigit] at hc
    · rw [heq, List.cons_prefix_cons] at hstarts
      obtain ⟨d, more, rfl, hd⟩ := hminus hstarts.1.symm
      rw [List.cons_append, List.cons_prefix_cons] at hstarts
      rw [← hstarts.2.1] at hd
      cases hd
  rw [atom, hnone]

/-- What the reader makes of a part with anything behind it. -/
def Part.Read (w : Text) : Part → Prop
  | .value v => ∀ fuel rest, 2 * w.length ≤ fuel → Ends rest →
      Json.value fuel (w ++ rest) = .ok (v, rest)
  | .items vs => ∀ fuel rest, 2 * w.length ≤ fuel → Json.items fuel (w ++ rest) = .ok (vs, rest)
  | .members ms => ∀ fuel seen rest, 2 * w.length ≤ fuel →
      Json.members fuel seen (w ++ rest) = .ok (entriesAfter seen ms, rest)

theorem read_word {v : Value} (h : (w, v) ∈ words) : (Part.value v).Read w := by
  intro fuel rest hfuel _
  have hhead : ∃ c more, w = c :: more ∧ c ∉ ['"', '[', '\x7b'] := by
    fin_cases h <;> exact ⟨_, _, rfl, by decide⟩
  obtain ⟨c, more, heq, hc⟩ := hhead
  obtain _ | fuel := fuel
  · simp [heq] at hfuel
  rw [value_of_atom, atom_word h]
  intro d hd
  rw [heq] at hd
  cases hd
  exact hc

theorem read_number (n : Numeral) : (Part.value n.value).Read n.text := by
  intro fuel rest hfuel hend
  obtain ⟨c, more, htext, hc, -⟩ := n.head
  obtain _ | fuel := fuel
  · simp [htext] at hfuel
  rw [value_of_atom, atom_number, n.number_append hend]
  intro d hd hmem
  rw [htext] at hd
  cases hd
  have hall : ∀ d ∈ ['"', '[', '\x7b'], ¬(d = '-' ∨ d.isDigit = true) :=
    Text.forall_mem_of_all (by decide)
  exact hall _ hmem hc

theorem read_string {u : LooseText} (h : Spells w u) :
    (Part.value (.text u)).Read ('"' :: (w ++ ['"'])) := by
  intro fuel rest hfuel _
  obtain _ | fuel := fuel
  · simp at hfuel
  rw [List.cons_append, List.append_assoc, List.singleton_append, value, stringBody_append h]
  rfl

theorem read_noItems {s : Text} (hs : Space s) :
    (Part.value (.list [])).Read ('[' :: (s ++ [']'])) := by
  intro fuel rest hfuel _
  obtain _ | fuel := fuel
  · simp at hfuel
  rw [List.cons_append, List.append_assoc, List.singleton_append, value,
    skipSpace_append_cons hs (by decide)]
  rfl

theorem read_noMembers {s : Text} (hs : Space s) :
    (Part.value (.map [])).Read ('\x7b' :: (s ++ ['\x7d'])) := by
  intro fuel rest hfuel _
  obtain _ | fuel := fuel
  · simp at hfuel
  rw [List.cons_append, List.append_assoc, List.singleton_append, value,
    skipSpace_append_cons hs (by decide)]
  rfl

section Steps

variable {s s₁ s₂ s₃ s₄ k w' : Text} {v : Value} {vs : List Value} {key : LooseText}
  {ms : List (LooseText × Value)}

theorem read_list (hs : Space s) (h : Renders w (.items vs)) (hw : (Part.items vs).Read w) :
    (Part.value (.list vs)).Read ('[' :: (s ++ w)) := by
  intro fuel rest hfuel _
  obtain _ | fuel := fuel
  · simp at hfuel
  rw [List.length_cons, List.length_append] at hfuel
  have hread := hw fuel rest (by omega)
  obtain ⟨c, more, rfl, hc⟩ := h.head
  obtain ⟨hspace, hbracket, -⟩ := startsValue_facts hc
  rw [List.cons_append] at hread
  rw [List.cons_append, List.append_assoc, List.cons_append, value, skipSpace_append_cons hs hspace]
  dsimp only
  split
  · rename_i heq
    exact absurd (List.cons.inj heq).1 hbracket
  · rw [hread]
    rfl

theorem read_map (hs : Space s) (h : Renders w (.members ms)) (hw : (Part.members ms).Read w) :
    (Part.value (.map (entriesAfter [] ms))).Read ('\x7b' :: (s ++ w)) := by
  intro fuel rest hfuel _
  obtain _ | fuel := fuel
  · simp at hfuel
  rw [List.length_cons, List.length_append] at hfuel
  have hread := hw fuel [] rest (by omega)
  obtain ⟨c, more, rfl, hc⟩ := h.head
  obtain ⟨hspace, -, hbrace, -⟩ := startsValue_facts hc
  rw [List.cons_append] at hread
  rw [List.cons_append, List.append_assoc, List.cons_append, value, skipSpace_append_cons hs hspace]
  dsimp only
  split
  · rename_i heq
    exact absurd (List.cons.inj heq).1 hbrace
  · rw [hread]
    rfl

theorem read_lastItem (hs : Space s) (hw : (Part.value v).Read w) :
    (Part.items [v]).Read (w ++ (s ++ [']'])) := by
  intro fuel rest hfuel
  obtain _ | fuel := fuel
  · simp at hfuel
  rw [List.length_append, List.length_append, List.length_singleton] at hfuel
  have hread := hw fuel (s ++ ']' :: rest) (by omega) (ends_append hs (ends_cons (by decide) rest))
  rw [List.append_assoc, List.append_assoc, List.singleton_append, items, hread]
  dsimp only
  rw [skipSpace_append_cons hs (by decide)]
  rfl

theorem read_item (hs₁ : Space s₁) (hs₂ : Space s₂) (h : Renders w' (.items vs))
    (hw : (Part.value v).Read w) (hw' : (Part.items vs).Read w') :
    (Part.items (v :: vs)).Read (w ++ (s₁ ++ ',' :: (s₂ ++ w'))) := by
  intro fuel rest hfuel
  obtain _ | fuel := fuel
  · simp at hfuel
  rw [List.length_append, List.length_append, List.length_cons, List.length_append] at hfuel
  have hread := hw fuel (s₁ ++ ',' :: (s₂ ++ (w' ++ rest))) (by omega)
    (ends_append hs₁ (ends_cons (by decide) _))
  have hmore := hw' fuel rest (by omega)
  obtain ⟨c, more, rfl, hc⟩ := h.head
  obtain ⟨hspace, -⟩ := startsValue_facts hc
  rw [show w ++ (s₁ ++ ',' :: (s₂ ++ c :: more)) ++ rest =
    w ++ (s₁ ++ ',' :: (s₂ ++ (c :: more ++ rest))) by simp, items, hread]
  dsimp only
  rw [skipSpace_append_cons hs₁ (by decide)]
  change (items fuel (skipSpace (s₂ ++ (c :: more ++ rest)))).map _ = _
  rw [List.cons_append, skipSpace_append_cons hs₂ hspace, ← List.cons_append, hmore]
  rfl

/-- How a mapping goes on once the value of a key is read. -/
def membersWith (fuel : Nat) (seen : List (Value × Value)) (key : LooseText) :
    Except Stop (Value × Text) → Except Stop (List (Value × Value) × Text)
  | .error stop => .error stop
  | .ok (v, rest) =>
    match skipSpace rest with
    | '\x7d' :: rest => .ok (Value.put seen (.text key) v, rest)
    | ',' :: rest => members fuel (Value.put seen (.text key) v) (skipSpace rest)
    | rest => .error (.fault .comma rest.length)

theorem members_named {fuel : Nat} {seen : List (Value × Value)} (hk : Spells k key)
    (hs₁ : Space s₁) (hs₂ : Space s₂) (h : Renders w (.value v))
    (hread : value fuel (w ++ rest) = .ok (v, rest)) :
    members (fuel + 1) seen (named k s₁ s₂ (w ++ rest)) =
      membersWith fuel seen key (.ok (v, rest)) := by
  obtain ⟨c, more, rfl, hc⟩ := h.head
  obtain ⟨hspace, -⟩ := startsValue_facts hc
  rw [named, members, stringBody_append hk]
  dsimp only
  rw [skipSpace_append_cons hs₁ (by decide)]
  change membersWith fuel seen key (value fuel (skipSpace (s₂ ++ (c :: more ++ rest)))) = _
  rw [List.cons_append, skipSpace_append_cons hs₂ hspace, ← List.cons_append, hread]

theorem named_append (k s₁ s₂ w rest : Text) :
    named k s₁ s₂ w ++ rest = named k s₁ s₂ (w ++ rest) := by
  simp [named]

theorem length_named (k s₁ s₂ w : Text) :
    (named k s₁ s₂ w).length = k.length + s₁.length + s₂.length + w.length + 3 := by
  simp only [named, List.length_cons, List.length_append]
  omega

theorem read_lastMember (hk : Spells k key) (hs₁ : Space s₁) (hs₂ : Space s₂) (hs₃ : Space s₃)
    (h : Renders w (.value v)) (hw : (Part.value v).Read w) :
    (Part.members [(key, v)]).Read (named k s₁ s₂ (w ++ (s₃ ++ ['\x7d']))) := by
  intro fuel seen rest hfuel
  rw [length_named, List.length_append, List.length_append, List.length_singleton] at hfuel
  obtain _ | fuel := fuel
  · simp at hfuel
  have hread := hw fuel (s₃ ++ '\x7d' :: rest) (by omega)
    (ends_append hs₃ (ends_cons (by decide) rest))
  rw [named_append, List.append_assoc, List.append_assoc, List.singleton_append,
    members_named hk hs₁ hs₂ h hread, membersWith, skipSpace_append_cons hs₃ (by decide)]
  rfl

theorem read_member (hk : Spells k key) (hs₁ : Space s₁) (hs₂ : Space s₂) (hs₃ : Space s₃)
    (hs₄ : Space s₄) (h : Renders w (.value v)) (h' : Renders w' (.members ms))
    (hw : (Part.value v).Read w) (hw' : (Part.members ms).Read w') :
    (Part.members ((key, v) :: ms)).Read
      (named k s₁ s₂ (w ++ (s₃ ++ ',' :: (s₄ ++ w')))) := by
  intro fuel seen rest hfuel
  rw [length_named, List.length_append, List.length_append, List.length_cons,
    List.length_append] at hfuel
  obtain _ | fuel := fuel
  · simp at hfuel
  have hread := hw fuel (s₃ ++ ',' :: (s₄ ++ (w' ++ rest))) (by omega)
    (ends_append hs₃ (ends_cons (by decide) _))
  have hmore := hw' fuel (Value.put seen (.text key) v) rest (by omega)
  obtain ⟨c, more, rfl, hc⟩ := h'.head
  obtain ⟨hspace, -⟩ := startsValue_facts hc
  rw [named_append, show w ++ (s₃ ++ ',' :: (s₄ ++ c :: more)) ++ rest =
    w ++ (s₃ ++ ',' :: (s₄ ++ (c :: more ++ rest))) by simp, members_named hk hs₁ hs₂ h hread,
    membersWith, skipSpace_append_cons hs₃ (by decide)]
  change members fuel _ (skipSpace (s₄ ++ (c :: more ++ rest))) = _
  rw [List.cons_append, skipSpace_append_cons hs₄ hspace, ← List.cons_append, hmore]
  rfl

end Steps

/-- **Every part is read as what it renders.** -/
theorem Renders.read {p : Part} (h : Renders w p) : p.Read w := by
  induction h with
  | word listed => exact read_word listed
  | number n => exact read_number n
  | string spells => exact read_string spells
  | noItems space => exact read_noItems space
  | list space h ih => exact read_list space h ih
  | noMembers space => exact read_noMembers space
  | map space h ih => exact read_map space h ih
  | lastItem space _ ih => exact read_lastItem space ih
  | item space space' _ h' ih ih' => exact read_item space space' h' ih ih'
  | lastMember spells space₁ space₂ space₃ h ih =>
    exact read_lastMember spells space₁ space₂ space₃ h ih
  | member spells space₁ space₂ space₃ space₄ h h' ih ih' =>
    exact read_member spells space₁ space₂ space₃ space₄ h h' ih ih'

/-- **A text that renders a value is read as the value**, with white space around it. -/
theorem read_document {v : Value} {before after : Text} (h : Renders w (.value v))
    (hbefore : Space before) (hafter : Space after) :
    Json.read (before ++ (w ++ after)) = .ok v := by
  obtain ⟨c, more, rfl, hc⟩ := h.head
  obtain ⟨hspace, -, -, hmark⟩ := startsValue_facts hc
  have hstart : ∀ rest, before ++ (c :: more ++ after) = '\uFEFF' :: rest → False := by
    intro rest heq
    cases before with
    | nil => exact hmark (List.cons.inj heq).1
    | cons d before =>
      have hd := hbefore d List.mem_cons_self
      rw [(List.cons.inj heq).1] at hd
      cases hd
  have hends : Ends after := by
    have hnil : Ends [] := nofun
    have happend := ends_append hafter hnil
    rwa [List.append_nil] at happend
  have hskip : skipSpace after = [] := by
    have hnil := skipSpace_append (t := []) hafter nofun
    rwa [List.append_nil] at hnil
  have hread := h.read (2 * (before ++ (c :: more ++ after)).length + 2) after
    (by simp only [List.length_append]; omega) hends
  have hdocument : document (before ++ (c :: more ++ after)) = .ok v := by
    rw [document, show skipSpace (before ++ (c :: more ++ after)) = c :: more ++ after from
      skipSpace_append_cons hbefore hspace _, hread]
    · dsimp only
      rw [hskip]
    · exact hstart
  rw [Json.read, hdocument]
  rfl

/-! ## Entries -/

section Entries

variable {ms : List (LooseText × Value)} {name : Text}

theorem find?_entriesAfter_of_not_mem (h : LooseText.ofText name ∉ ms.map Prod.fst)
    (seen : List (Value × Value)) :
    Value.find? (entriesAfter seen ms) name = Value.find? seen name := by
  induction ms generalizing seen with
  | nil => rfl
  | cons m ms ih =>
    obtain ⟨hm, hms⟩ := not_or.mp (mt List.mem_cons.mpr h)
    have hrest := ih hms (Value.put seen (.text m.1) m.2)
    rw [Value.find?_put_text, if_neg (Ne.symm hm)] at hrest
    exact hrest

theorem find?_entriesAfter {v : Value} (hnodup : (ms.map Prod.fst).Nodup)
    (h : (LooseText.ofText name, v) ∈ ms) (seen : List (Value × Value)) :
    Value.find? (entriesAfter seen ms) name = some v := by
  induction ms generalizing seen with
  | nil => cases h
  | cons m ms ih =>
    obtain ⟨hm, hms⟩ := List.nodup_cons.mp hnodup
    rcases List.mem_cons.mp h with rfl | h
    · have hrest := find?_entriesAfter_of_not_mem hm (Value.put seen (.text (.ofText name)) v)
      rw [Value.find?_put_text, if_pos rfl] at hrest
      exact hrest
    · exact ih hms h _

end Entries

end LinkHarvest.Json
