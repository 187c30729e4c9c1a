import LinkHarvest.Proofs.Text.Utf8
import LinkHarvest.Proofs.Text.Visible
import LinkHarvest.Text.Percent

/-!
# Reading back what is written with escapes

A text can be spelled in many ways with percent escapes: any of its characters but the percent sign
may stand as it is, and any character may be replaced by the escapes of its UTF-8 bytes, with
hexadecimal digits of either case (`Spelled`). Reading gives the text back, whatever the spelling
(`unescape_of_spelled`, `decodeReplacing_of_spelled`). The escaped form of a text is one spelling of
it (`spelled_escape`); the form of a component keeps only characters that delimit nothing
(`mem_component`).
-/

namespace LinkHarvest.Percent

variable {c : Char} {v w t : Text} {bytes : Bytes}

/-! ## Spellings -/

/-- A text is made of the escapes of some bytes. -/
inductive Escapes : Text → Bytes → Prop
  | nil : Escapes [] []
  | cons {a b : Char} {byte : UInt8} {w : Text} {bytes : Bytes}
      (h : escapedByte? a b = some byte) (rest : Escapes w bytes) :
      Escapes ('%' :: a :: b :: w) (byte :: bytes)

/-- A text written with escapes, and the text that it spells. -/
inductive Spelled : Text → Text → Prop
  | nil : Spelled [] []
  | plain {c : Char} {w t : Text} (h : c ≠ '%') (rest : Spelled w t) : Spelled (c :: w) (c :: t)
  | escaped {c : Char} {v w t : Text} (h : Escapes v (Utf8.encodeChar c)) (rest : Spelled w t) :
      Spelled (v ++ w) (c :: t)

theorem Spelled.append {w' t' : Text} (h : Spelled w t) (h' : Spelled w' t') :
    Spelled (w ++ w') (t ++ t') := by
  induction h with
  | nil => exact h'
  | plain hc _ ih => exact .plain hc ih
  | escaped hv _ ih =>
    rw [List.append_assoc]
    exact .escaped hv ih

theorem spelled_self (h : '%' ∉ t) : Spelled t t := by
  induction t with
  | nil => exact .nil
  | cons c t ih =>
    obtain ⟨hc, ht⟩ := not_or.mp (mt List.mem_cons.mpr h)
    exact .plain (Ne.symm hc) (ih ht)

/-! ## Reading -/

theorem hexDigit?_percent : Text.hexDigit? '%' = none := by decide

theorem ne_percent_of_escapedByte? {a b : Char} {byte : UInt8} (h : escapedByte? a b = some byte) :
    a ≠ '%' ∧ b ≠ '%' := by
  constructor
  · rintro rfl
    simp [escapedByte?, hexDigit?_percent] at h
  · rintro rfl
    simp [escapedByte?, hexDigit?_percent] at h

theorem hasBadEscape_cons (h : c ≠ '%') (w : Text) : hasBadEscape (c :: w) = hasBadEscape w := by
  rw [hasBadEscape]
  · rintro a b rest rfl
    exact absurd rfl h
  · rintro rfl
    exact h rfl

theorem hasBadEscape_escapes (h : Escapes v bytes) (w : Text) :
    hasBadEscape (v ++ w) = hasBadEscape w := by
  induction h with
  | nil => rfl
  | cons hbyte _ ih =>
    obtain ⟨ha, hb⟩ := ne_percent_of_escapedByte? hbyte
    rw [List.cons_append, List.cons_append, List.cons_append, hasBadEscape, hbyte,
      hasBadEscape_cons ha, hasBadEscape_cons hb, ih]
    rfl

theorem hasBadEscape_of_spelled (h : Spelled w t) : hasBadEscape w = false := by
  induction h with
  | nil => rfl
  | plain hc _ ih => rw [hasBadEscape_cons hc, ih]
  | escaped hv _ ih => rw [hasBadEscape_escapes hv, ih]

theorem decodeRuns_cons (read : Bytes → Option Text) (run : Bytes) (h : c ≠ '%') (w : Text) :
    decodeRuns read run (c :: w) =
      if c.toNat < 128 then decodeRuns read (UInt8.ofNat c.toNat :: run) w
      else do
        let start ← read run.reverse
        let more ← decodeRuns read [] w
        return start ++ c :: more := by
  rw [decodeRuns]
  rintro a b rest rfl
  exact absurd rfl h

theorem decodeRuns_escapes (read : Bytes → Option Text) (run : Bytes) (h : Escapes v bytes)
    (w : Text) : decodeRuns read run (v ++ w) = decodeRuns read (bytes.reverse ++ run) w := by
  induction h generalizing run with
  | nil => rfl
  | cons hbyte _ ih =>
    rw [List.cons_append, List.cons_append, List.cons_append, decodeRuns, hbyte]
    dsimp only
    rw [ih, List.reverse_cons, List.append_assoc]
    rfl

theorem reverse_encode_concat (s : Text) (c : Char) :
    (Utf8.encode (s ++ [c])).reverse = (Utf8.encodeChar c).reverse ++ (Utf8.encode s).reverse := by
  rw [Utf8.encode_append, List.reverse_append, Utf8.encode_cons, Utf8.encode_nil, List.append_nil]

theorem decodeRuns_of_spelled (read : Bytes → Option Text)
    (hread : ∀ s, read (Utf8.encode s) = some s) (h : Spelled w t) (s : Text) :
    decodeRuns read (Utf8.encode s).reverse w = some (s ++ t) := by
  -- The run so far holds the bytes of the complete characters `s`.
  induction h generalizing s with
  | nil => rw [decodeRuns, List.reverse_reverse, hread, List.append_nil]
  | @plain c w t hc _ ih =>
    rw [decodeRuns_cons read _ hc]
    split
    · rename_i hascii
      have hrun := ih (s ++ [c])
      rw [reverse_encode_concat, Utf8.encodeChar_ascii hascii] at hrun
      simpa using hrun
    · have hrun := ih []
      rw [Utf8.encode_nil, List.reverse_nil] at hrun
      rw [List.reverse_reverse, hread, hrun]
      rfl
  | @escaped c v w t hv _ ih =>
    have hrun := ih (s ++ [c])
    rw [reverse_encode_concat] at hrun
    rw [decodeRuns_escapes read _ hv, hrun]
    simp

/-- **Every spelling of a text is read as the text.** -/
theorem unescape_of_spelled (h : Spelled w t) : unescape w = t := by
  have hruns := decodeRuns_of_spelled _ Utf8.decode?_encode h []
  rw [Utf8.encode_nil, List.reverse_nil] at hruns
  rw [unescape, hasBadEscape_of_spelled h, hruns]
  rfl

theorem decodeRuns_ne_nil {read : Bytes → Option Text}
    (hread : ∀ bytes, bytes ≠ [] → read bytes ≠ some []) {run : Bytes}
    (hne : run ≠ [] ∨ w ≠ []) : decodeRuns read run w ≠ some [] := by
  fun_induction decodeRuns read run w with
  | case1 run => exact hread _ (by simpa using hne)
  | case2 run a b rest byte hbyte ih => exact ih (.inl (List.cons_ne_nil _ _))
  | case3 run a b rest hbyte ih => exact ih (.inl (List.cons_ne_nil _ _))
  | case4 run c rest _ hascii ih => exact ih (.inl (List.cons_ne_nil _ _))
  | case5 run c rest _ hascii ih =>
    cases hstart : read run.reverse with
    | none => simp
    | some start => cases hmore : decodeRuns read [] rest <;> simp

theorem unescape_ne_nil (h : t ≠ []) : unescape t ≠ [] := by
  have hruns : decodeRuns Utf8.decode? [] t ≠ some [] :=
    decodeRuns_ne_nil (fun _ => Utf8.decode?_ne_nil) (.inr h)
  unfold unescape
  split
  · exact h
  · cases hread : decodeRuns Utf8.decode? [] t with
    | none => exact h
    | some u =>
      rintro rfl
      exact hruns hread

theorem decodeReplacing_of_spelled (h : Spelled w t) : decodeReplacing w = t := by
  have hruns := decodeRuns_of_spelled (fun bytes => some (Utf8.decodeReplacing bytes))
    (fun s => congrArg some (Utf8.decodeReplacing_encode s)) h []
  rw [Utf8.encode_nil, List.reverse_nil] at hruns
  rw [decodeReplacing, hruns]
  rfl

/-! ## Writing -/

theorem hexDigit?_hexDigit {n : Nat} (h : n < 16) : Text.hexDigit? (hexDigit n) = some n := by
  have hall : ∀ n < 16, Text.hexDigit? (hexDigit n) = some n := by decide
  exact hall n h

theorem isUnreserved_hexDigit {n : Nat} (h : n < 16) : isUnreserved (hexDigit n) = true := by
  have hall : ∀ n < 16, isUnreserved (hexDigit n) = true := by decide
  exact hall n h

theorem escapes_flatMap (bytes : Bytes) : Escapes (bytes.flatMap escapeByte) bytes := by
  induction bytes with
  | nil => exact .nil
  | cons byte bytes ih =>
    have hlt := byte.toNat_lt
    refine .cons ?_ ih
    rw [escapedByte?, hexDigit?_hexDigit (by omega), hexDigit?_hexDigit (by omega)]
    dsimp only
    congr 1
    apply UInt8.toNat_inj.mp
    rw [Utf8.toNat_ofNat (by omega)]
    omega

theorem spelled_escape {keep : Char → Bool} (h : keep '%' = false) (t : Text) :
    Spelled (escape keep t) t := by
  induction t with
  | nil => exact .nil
  | cons c t ih =>
    rw [escape, List.flatMap_cons]
    split
    · rename_i hkeep
      refine .plain ?_ ih
      rintro rfl
      rw [h] at hkeep
      cases hkeep
    · exact .escaped (escapes_flatMap _) ih

theorem mem_escapeChar {d : Char} (h : c ∈ escapeChar d) : c = '%' ∨ isUnreserved c = true := by
  obtain ⟨byte, -, hc⟩ := List.mem_flatMap.mp h
  have hlt := byte.toNat_lt
  rw [escapeByte, List.mem_cons, List.mem_cons, List.mem_singleton] at hc
  rcases hc with rfl | rfl | rfl
  · exact .inl rfl
  · exact .inr (isUnreserved_hexDigit (by omega))
  · exact .inr (isUnreserved_hexDigit (by omega))

theorem mem_escape {keep : Char → Bool} (h : c ∈ escape keep t) :
    keep c = true ∨ c = '%' ∨ isUnreserved c = true := by
  obtain ⟨d, -, hc⟩ := List.mem_flatMap.mp h
  split at hc
  · rename_i hkeep
    rw [List.mem_singleton.mp hc]
    exact .inl hkeep
  · exact .inr (mem_escapeChar hc)

/-! ## Components -/

theorem visible_of_isUnreserved (h : isUnreserved c = true) :
    33 ≤ c.toNat ∧ c.toNat < 128 := by
  rcases Bool.or_eq_true_iff.mp h with h | h
  · exact Text.visible_of_isAlphanum h
  · have hall : ∀ c ∈ "-._~".toList, 33 ≤ c.toNat ∧ c.toNat < 128 :=
      Text.forall_mem_of_all (by decide)
    exact hall c (List.contains_iff_mem.mp h)

/-- A text as a component of a URL: everything that may be escaped is. -/
def component (t : Text) : Text := escape isUnreserved t

theorem spelled_component (t : Text) : Spelled (component t) t := spelled_escape (by decide) t

theorem unescape_component (t : Text) : unescape (component t) = t :=
  unescape_of_spelled (spelled_component t)

theorem mem_component (h : c ∈ component t) : c = '%' ∨ isUnreserved c = true := by
  rcases mem_escape h with hc | hc
  · exact .inr hc
  · exact hc

end LinkHarvest.Percent
