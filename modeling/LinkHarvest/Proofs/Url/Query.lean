import LinkHarvest.Proofs.Data.Value
import LinkHarvest.Proofs.Text.Cut
import LinkHarvest.Proofs.Text.Percent
import LinkHarvest.Url.Query
import Mathlib.Data.List.Induction

/-!
# Reading back a query

The query that is written for a list of names and values holds these pairs and no others
(`pairs_text`), whatever characters they consist of: the delimiters of a query never stand inside an
escaped name or value. Its parameters give every name all of its values, in order
(`find?_parameters_text`).
-/

namespace LinkHarvest.Url.Query

variable {c : Char} {t : Text}

/-! ## Names and values -/

/-- A name or value of a query, with plus signs for blanks and everything else escaped that may be.
-/
def escape (t : Text) : Text :=
  (Percent.escape (fun c => Percent.isUnreserved c || c == ' ') t).map fun c =>
    if c = ' ' then '+' else c

theorem mem_escape (h : c ∈ escape t) :
    c = '+' ∨ c = '%' ∨ Percent.isUnreserved c = true := by
  obtain ⟨d, hd, rfl⟩ := List.mem_map.mp h
  split
  · exact .inl rfl
  · rename_i hblank
    right
    rcases Percent.mem_escape hd with hkeep | hd
    · exact .inr (by simpa [hblank] using hkeep)
    · exact hd

/-- A text as it may stand for a value: spelled with escapes, with plus signs for blanks, and
without the delimiters of a query and of a URL. -/
structure Quoted (shown t : Text) : Prop where
  spelled : Percent.Spelled (shown.map fun c => if c = '+' then ' ' else c) t
  visible : Text.Visible shown
  plain : ∀ c ∈ ['&', '#'], c ∉ shown

theorem Quoted.unescape {shown : Text} (h : Quoted shown t) : unescape shown = t :=
  Percent.decodeReplacing_of_spelled h.spelled

theorem spelled_escape (t : Text) :
    Percent.Spelled ((escape t).map fun c => if c = '+' then ' ' else c) t := by
  have hplus : ∀ c ∈ Percent.escape (fun c => Percent.isUnreserved c || c == ' ') t, c ≠ '+' := by
    rintro c hc rfl
    rcases Percent.mem_escape hc with h | h | h
    · exact absurd h (by decide)
    · exact absurd h (by decide)
    · exact absurd h (by decide)
  have hback : (escape t).map (fun c => if c = '+' then ' ' else c) =
      Percent.escape (fun c => Percent.isUnreserved c || c == ' ') t := by
    rw [escape, List.map_map]
    refine (List.map_congr_left fun c hc => ?_).trans (List.map_id _)
    by_cases hblank : c = ' '
    · rw [hblank]
      rfl
    · simp [hblank, hplus c hc]
  rw [hback]
  exact Percent.spelled_escape (by decide) t

theorem unescape_escape (t : Text) : unescape (escape t) = t :=
  Percent.decodeReplacing_of_spelled (spelled_escape t)

theorem not_mem_escape (h : c ∈ ['&', '=', '#']) (t : Text) : c ∉ escape t := by
  intro hmem
  have hall : ∀ c ∈ ['&', '=', '#'],
      ¬(c = '+' ∨ c = '%' ∨ Percent.isUnreserved c = true) := Text.forall_mem_of_all (by decide)
  exact hall c h (mem_escape hmem)

theorem visible_escape (t : Text) : Text.Visible (escape t) := by
  intro c hc
  rcases mem_escape hc with rfl | rfl | h
  · decide
  · decide
  · exact Percent.visible_of_isUnreserved h

theorem quoted_escape (t : Text) : Quoted (escape t) t where
  spelled := spelled_escape t
  visible := visible_escape t
  plain := fun c hc => not_mem_escape (by rcases List.mem_cons.mp hc with rfl | hc <;> simp_all) t

/-! ## Pairs -/

/-- A name with its value. -/
def piece (p : Text × Text) : Text := escape p.1 ++ '=' :: escape p.2

def text (ps : List (Text × Text)) : Text := Text.joined ['&'] (ps.map piece)

theorem pair_piece (p : Text × Text) : pair (piece p) = p := by
  rw [pair, piece, Text.cut_append_cons (not_mem_escape (by decide) p.1)]
  dsimp only
  rw [Option.getD_some, unescape_escape, unescape_escape]

theorem not_mem_piece (h : c ∈ ['&', '#']) (p : Text × Text) : c ∉ piece p := by
  have hmem : c ∈ ['&', '=', '#'] := by
    rcases List.mem_cons.mp h with rfl | h
    · decide
    · rw [List.mem_singleton.mp h]
      decide
  have hequals : c ≠ '=' := by
    rintro rfl
    exact absurd h (by decide)
  simp [piece, not_mem_escape hmem, hequals]

theorem visible_piece (p : Text × Text) : Text.Visible (piece p) :=
  (visible_escape p.1).append (.cons (by decide) (visible_escape p.2))

/-- **A query holds the pairs it is written for.** -/
theorem pairs_text (ps : List (Text × Text)) : pairs (text ps) = ps := by
  cases ps with
  | nil => rfl
  | cons p ps =>
    have hne : (p :: ps).map piece ≠ [] := by simp
    have hplain : ∀ q ∈ (p :: ps).map piece, '&' ∉ q :=
      List.forall_mem_map.mpr fun q _ => not_mem_piece (by decide) q
    have hfull : ∀ q ∈ (p :: ps).map piece, (!q.isEmpty) = true :=
      List.forall_mem_map.mpr fun q _ => by simp [piece]
    rw [pairs, text, Text.split_joined hne hplain, List.filter_eq_self.mpr hfull, List.map_map]
    refine (List.map_congr_left fun q _ => ?_).trans (List.map_id _)
    exact pair_piece q

theorem mem_text {ps : List (Text × Text)} (h : c ∈ text ps) :
    c = '&' ∨ ∃ p ∈ ps, c ∈ piece p := by
  induction ps with
  | nil => cases h
  | cons p ps ih =>
    cases ps with
    | nil =>
      rw [text, List.map_singleton, Text.joined, List.intercalate_singleton] at h
      exact .inr ⟨p, List.mem_cons_self, h⟩
    | cons q ps =>
      have hcons : text (p :: q :: ps) = piece p ++ '&' :: text (q :: ps) := by
        simp [text, Text.joined, List.intercalate_cons_cons]
      rw [hcons] at h
      rcases List.mem_append.mp h with h | h
      · exact .inr ⟨p, List.mem_cons_self, h⟩
      · rcases List.mem_cons.mp h with rfl | h
        · exact .inl rfl
        · rcases ih h with h | ⟨r, hr, h⟩
          · exact .inl h
          · exact .inr ⟨r, List.mem_cons_of_mem _ hr, h⟩

theorem visible_text (ps : List (Text × Text)) : Text.Visible (text ps) := by
  intro c hc
  rcases mem_text hc with rfl | ⟨p, -, h⟩
  · decide
  · exact visible_piece p c h

theorem hash_not_mem_text (ps : List (Text × Text)) : '#' ∉ text ps := by
  intro h
  rcases mem_text h with h | ⟨p, -, h⟩
  · cases h
  · exact not_mem_piece (by decide) p h

/-! ## Parameters -/

def valuesOf (ps : List (Text × Text)) (name : Text) : List Value :=
  (ps.filter fun p => p.1 = name).map fun p => Value.ofText p.2

def bound : List Value → Option Value
  | [] => none
  | v :: vs => some (.list (v :: vs))

@[simp] theorem bound_nil : bound [] = none := rfl

@[simp] theorem bound_cons (v : Value) (vs : List Value) :
    bound (v :: vs) = some (.list (v :: vs)) := rfl

theorem valuesOf_append (ps qs : List (Text × Text)) (name : Text) :
    valuesOf (ps ++ qs) name = valuesOf ps name ++ valuesOf qs name := by
  rw [valuesOf, List.filter_append, List.map_append]
  rfl

theorem valuesOf_cons (p : Text × Text) (ps : List (Text × Text)) (name : Text) :
    valuesOf (p :: ps) name =
      (if p.1 = name then [Value.ofText p.2] else []) ++ valuesOf ps name := by
  unfold valuesOf
  by_cases h : p.1 = name <;> simp [h]

theorem valuesOf_concat (ps : List (Text × Text)) (p : Text × Text) (name : Text) :
    valuesOf (ps ++ [p]) name =
      valuesOf ps name ++ if p.1 = name then [Value.ofText p.2] else [] := by
  rw [valuesOf_append, valuesOf_cons]
  exact congrArg _ (List.append_nil _)

theorem valuesOf_eq_nil {ps : List (Text × Text)} {name : Text} (h : ∀ p ∈ ps, p.1 ≠ name) :
    valuesOf ps name = [] := by
  rw [valuesOf, List.map_eq_nil_iff, List.filter_eq_nil_iff]
  intro p hp
  simpa using h p hp

theorem valuesOf_perm {ps qs : List (Text × Text)} (h : ps.Perm qs) (name : Text) :
    (valuesOf ps name).Perm (valuesOf qs name) := (h.filter _).map _

theorem find?_addValue {entries : List (Value × Value)} {ps : List (Text × Text)}
    (h : ∀ name, Value.find? entries name = bound (valuesOf ps name)) (key value name : Text) :
    Value.find? (addValue entries key value) name =
      bound (valuesOf (ps ++ [(key, value)]) name) := by
  rw [valuesOf_concat, addValue, h key]
  cases hvalues : valuesOf ps key with
  | nil =>
    rw [bound_nil]
    dsimp only
    rw [Value.find?_concat, h name]
    by_cases hname : key = name
    · rw [← hname, hvalues, if_pos rfl, if_pos rfl]
      rfl
    · rw [if_neg hname, if_neg hname, List.append_nil]
      cases bound (valuesOf ps name) <;> rfl
  | cons v vs =>
    rw [bound_cons]
    dsimp only
    rw [Value.find?_put, h name]
    by_cases hname : key = name
    · rw [← hname, hvalues, if_pos rfl, if_pos rfl]
      rfl
    · rw [if_neg hname, if_neg hname, List.append_nil]

theorem find?_foldl_addValue (ps : List (Text × Text)) (name : Text) :
    Value.find? (ps.foldl (fun entries p => addValue entries p.1 p.2) []) name =
      bound (valuesOf ps name) := by
  induction ps using List.reverseRecOn generalizing name with
  | nil => rfl
  | append_singleton ps p ih =>
    rw [List.foldl_append]
    exact find?_addValue ih p.1 p.2 name

/-- **A name is bound to its values.** -/
theorem find?_parameters_text (ps : List (Text × Text)) (name : Text) :
    Value.find? (parameters (text ps)) name = bound (valuesOf ps name) := by
  rw [parameters, pairs_text, find?_foldl_addValue]

theorem parameters_pair {name shown : Text} (hname : unescape name = name)
    (hplain : '=' ∉ name ∧ '&' ∉ name) (h : Quoted shown t) :
    parameters (name ++ '=' :: shown) = [(.ofText name, .list [.ofText t])] := by
  have hwhole : '&' ∉ name ++ '=' :: shown := by
    have hshown := h.plain '&' (by decide)
    simp [hplain.2, hshown]
  have hpair : pair (name ++ '=' :: shown) = (name, t) := by
    rw [pair, Text.cut_append_cons hplain.1]
    dsimp only
    rw [Option.getD_some, hname, h.unescape]
  have hpairs : pairs (name ++ '=' :: shown) = [(name, t)] := by
    rw [pairs, Text.split_of_not_mem hwhole, List.filter_cons_of_pos (by simp), List.filter_nil,
      List.map_singleton, hpair]
  rw [parameters, hpairs]
  rfl

end LinkHarvest.Url.Query
