import LinkHarvest.Proofs.Text.Percent

/-!
# Texts that are no spelling

A text with escapes is a spelling of another text, or there is something wrong with it: an escape is
`Malformed`, or a run of ASCII characters is `Broken`, its bytes being no UTF-8
(`spelled_or_malformed_or_broken`). A spelling is read as what it spells, and any other text is given
back as a whole, whatever its other escapes stand for (`unescape_inverts_spelling`).

A character beyond ASCII ends a run, and what stands before and behind it is read on its own
(`decodeRuns_append_cons`). So a single broken run is enough for nothing to be read. A run that is
not broken holds the bytes of whole characters; as those of a character beyond ASCII can only come
from escapes, the run spells its text (`spelled_of_runBytes`).
-/

namespace LinkHarvest.Percent

variable {c : Char} {r u v w t : Text} {run bytes : Bytes} {read : Bytes → Option Text}

/-! ## What can be wrong with a text -/

/-- Some percent sign is not followed by two hexadecimal digits. -/
def Malformed (w : Text) : Prop :=
  ∃ u v, w = u ++ '%' :: v ∧ ∀ a b rest, v = a :: b :: rest → escapedByte? a b = none

/-- The bytes that ASCII characters stand for: each escape for its byte, and each character outside
an escape for its own. -/
inductive RunBytes : Text → Bytes → Prop
  | nil : RunBytes [] []
  | plain {c : Char} {w : Text} {bytes : Bytes} (h : c ≠ '%') (hascii : c.toNat < 128)
      (rest : RunBytes w bytes) : RunBytes (c :: w) (UInt8.ofNat c.toNat :: bytes)
  | escape {a b : Char} {byte : UInt8} {w : Text} {bytes : Bytes}
      (h : escapedByte? a b = some byte) (rest : RunBytes w bytes) :
      RunBytes ('%' :: a :: b :: w) (byte :: bytes)

/-- The ASCII characters between two characters beyond ASCII, or between one and an end of the text,
stand for bytes that are no text. -/
def Broken (w : Text) : Prop :=
  ∃ u r v bytes, w = u ++ r ++ v ∧ (∀ c, u.getLast? = some c → 128 ≤ c.toNat) ∧
    (∀ c, v.head? = some c → 128 ≤ c.toNat) ∧ RunBytes r bytes ∧ ∀ s, bytes ≠ Utf8.encode s

/-! ## Malformed escapes -/

theorem malformed_cons : Malformed (c :: w) ↔
    (c = '%' ∧ ∀ a b rest, w = a :: b :: rest → escapedByte? a b = none) ∨ Malformed w := by
  constructor
  · rintro ⟨u, v, heq, hbad⟩
    cases u with
    | nil =>
      cases heq
      exact .inl ⟨rfl, hbad⟩
    | cons d u =>
      cases heq
      exact .inr ⟨u, v, rfl, hbad⟩
  · rintro (⟨rfl, hbad⟩ | ⟨u, v, rfl, hbad⟩)
    · exact ⟨[], w, rfl, hbad⟩
    · exact ⟨c :: u, v, rfl, hbad⟩

theorem hasBadEscape_iff : hasBadEscape w = true ↔ Malformed w := by
  fun_induction hasBadEscape w with
  | case1 => simp [Malformed]
  | case2 a b rest ih =>
    rw [malformed_cons, Bool.or_eq_true, ih]
    simp
  | case3 rest hshort =>
    have hbad : Malformed ('%' :: rest) :=
      ⟨[], rest, rfl, fun a b more heq => (hshort a b more heq).elim⟩
    simp [hbad]
  | case4 c rest _ hc ih => simp [malformed_cons, ih, show c ≠ '%' from hc]

theorem hexDigit?_of_not_ascii (h : 128 ≤ c.toNat) : Text.hexDigit? c = none := by
  unfold Text.hexDigit?
  simp only [Text.le_iff_toNat, Char.reduceToNat]
  rw [if_neg (by omega), if_neg (by omega), if_neg (by omega)]

theorem escapedByte?_eq_none {a b : Char} (h : 128 ≤ a.toNat ∨ 128 ≤ b.toNat) :
    escapedByte? a b = none := by
  unfold escapedByte?
  rcases h with h | h
  · rw [hexDigit?_of_not_ascii h]
  · rw [hexDigit?_of_not_ascii h]
    cases Text.hexDigit? a <;> rfl

theorem no_escape_append_cons (h : ∀ a b rest, u = a :: b :: rest → escapedByte? a b = none)
    (hc : 128 ≤ c.toNat) (v : Text) :
    ∀ a b rest, u ++ c :: v = a :: b :: rest → escapedByte? a b = none := by
  intro a b rest heq
  cases u with
  | nil =>
    cases heq
    exact escapedByte?_eq_none (.inl hc)
  | cons d u =>
    cases u with
    | nil =>
      cases heq
      exact escapedByte?_eq_none (.inr hc)
    | cons e u =>
      cases heq
      exact h _ _ u rfl

theorem Malformed.append_cons (h : Malformed u) (hc : 128 ≤ c.toNat) (v : Text) :
    Malformed (u ++ c :: v) := by
  obtain ⟨x, y, rfl, hbad⟩ := h
  exact ⟨x, y ++ c :: v, by simp, no_escape_append_cons hbad hc v⟩

theorem Malformed.append_left (h : Malformed v) (u : Text) : Malformed (u ++ v) := by
  obtain ⟨x, y, rfl, hbad⟩ := h
  exact ⟨u ++ x, y, by simp, hbad⟩

/-! ## Runs -/

theorem RunBytes.of_append {x y : Bytes} (h : RunBytes r (x ++ y)) :
    ∃ r₁ r₂, r = r₁ ++ r₂ ∧ RunBytes r₁ x ∧ RunBytes r₂ y := by
  induction x generalizing r with
  | nil => exact ⟨[], r, rfl, .nil, h⟩
  | cons byte x ih =>
    cases h with
    | plain hc hascii rest =>
      obtain ⟨r₁, r₂, rfl, h₁, h₂⟩ := ih rest
      exact ⟨_, r₂, rfl, .plain hc hascii h₁, h₂⟩
    | escape hbyte rest =>
      obtain ⟨r₁, r₂, rfl, h₁, h₂⟩ := ih rest
      exact ⟨_, r₂, rfl, .escape hbyte h₁, h₂⟩

theorem RunBytes.tail (h : RunBytes (c :: w) bytes) (hc : c ≠ '%') :
    ∃ more, RunBytes w more := by
  cases h with
  | plain _ _ rest => exact ⟨_, rest⟩
  | escape _ _ => exact absurd rfl hc

theorem exists_runBytes (hascii : ∀ c ∈ r, c.toNat < 128) (h : ¬ Malformed r) :
    ∃ bytes, RunBytes r bytes := by
  induction r with
  | nil => exact ⟨[], .nil⟩
  | cons c r ih =>
    obtain ⟨hc, hr⟩ := List.forall_mem_cons.mp hascii
    rw [malformed_cons, not_or, not_and] at h
    obtain ⟨bytes, hbytes⟩ := ih hr h.2
    by_cases hpercent : c = '%'
    · subst hpercent
      obtain ⟨a, b, rest, rfl, hne⟩ : ∃ a b rest, r = a :: b :: rest ∧ escapedByte? a b ≠ none := by
        simpa using h.1 rfl
      obtain ⟨byte, hbyte⟩ := Option.ne_none_iff_exists'.mp hne
      -- The digits of an escape are read as plain characters first; its bytes are those behind them.
      obtain ⟨ha, hb⟩ := ne_percent_of_escapedByte? hbyte
      obtain ⟨_, hmore⟩ := hbytes.tail ha
      obtain ⟨more, hmore⟩ := hmore.tail hb
      exact ⟨byte :: more, .escape hbyte hmore⟩
    · exact ⟨_, .plain hpercent hc hbytes⟩

theorem RunBytes.escapes (h : RunBytes r bytes) (hbytes : ∀ b ∈ bytes, 128 ≤ b.toNat) :
    Escapes r bytes := by
  induction h with
  | nil => exact .nil
  | plain _ hascii _ _ =>
    have hbeyond := hbytes _ List.mem_cons_self
    rw [Utf8.toNat_ofNat (by omega)] at hbeyond
    omega
  | escape hbyte _ ih => exact .cons hbyte (ih (List.forall_mem_cons.mp hbytes).2)

theorem RunBytes.singleton {byte : UInt8} (h : RunBytes r [byte]) :
    (∃ d : Char, d ≠ '%' ∧ d.toNat < 128 ∧ r = [d] ∧ byte = UInt8.ofNat d.toNat) ∨
      Escapes r [byte] := by
  generalize hbytes : [byte] = bytes at h
  cases h with
  | nil => cases hbytes
  | plain hc hascii rest =>
    cases hbytes
    cases rest
    exact .inl ⟨_, hc, hascii, rfl, rfl⟩
  | escape hbyte rest =>
    cases hbytes
    cases rest
    exact .inr (.cons hbyte .nil)

theorem spelled_of_runBytes_char (h : RunBytes r (Utf8.encodeChar c)) : Spelled r [c] := by
  have hescaped (h : Escapes r (Utf8.encodeChar c)) : Spelled r [c] := by
    have hspelled := Spelled.escaped h .nil
    rwa [List.append_nil] at hspelled
  by_cases hascii : c.toNat < 128
  · have hbytes := Utf8.encodeChar_ascii hascii
    rcases RunBytes.singleton (hbytes ▸ h) with ⟨d, hd, hd', rfl, hcode⟩ | h
    · have hcode := congrArg UInt8.toNat hcode
      rw [Utf8.toNat_ofNat (by omega), Utf8.toNat_ofNat (by omega)] at hcode
      rw [Char.toNat_inj.mp hcode]
      exact .plain hd .nil
    · exact hescaped (hbytes ▸ h)
  · exact hescaped (h.escapes (Utf8.bytes_of_not_ascii (Nat.not_lt.mp hascii)))

theorem spelled_of_runBytes (h : RunBytes r (Utf8.encode t)) : Spelled r t := by
  induction t generalizing r with
  | nil =>
    cases h
    exact .nil
  | cons c t ih =>
    obtain ⟨r₁, r₂, rfl, hchar, hrest⟩ := RunBytes.of_append h
    exact (spelled_of_runBytes_char hchar).append (ih hrest)

theorem run_cases (hascii : ∀ c ∈ r, c.toNat < 128) :
    (∃ s, Spelled r s) ∨ Malformed r ∨
      ∃ bytes, RunBytes r bytes ∧ ∀ s, bytes ≠ Utf8.encode s := by
  by_cases hbad : Malformed r
  · exact .inr (.inl hbad)
  obtain ⟨bytes, hbytes⟩ := exists_runBytes hascii hbad
  by_cases hutf8 : ∃ s, bytes = Utf8.encode s
  · obtain ⟨s, rfl⟩ := hutf8
    exact .inl ⟨s, spelled_of_runBytes hbytes⟩
  · exact .inr (.inr ⟨bytes, hbytes, not_exists.mp hutf8⟩)

theorem Broken.append_cons (h : Broken v) (hc : 128 ≤ c.toNat) (u : Text) :
    Broken (u ++ c :: v) := by
  obtain ⟨x, r, y, bytes, rfl, hx, hy, hbytes, hutf8⟩ := h
  refine ⟨u ++ c :: x, r, y, bytes, by simp, fun d hd => ?_, hy, hbytes, hutf8⟩
  rw [List.getLast?_append_cons] at hd
  cases x with
  | nil =>
    cases hd
    exact hc
  | cons e x => exact hx d (by simpa using hd)

theorem spelled_or_malformed_or_broken (w : Text) :
    (∃ t, Spelled w t) ∨ Malformed w ∨ Broken w := by
  -- The induction is on what stands behind the run `r` that has been passed so far.
  suffices hrun : ∀ w r : Text, (∀ c ∈ r, c.toNat < 128) →
      (∃ t, Spelled (r ++ w) t) ∨ Malformed (r ++ w) ∨ Broken (r ++ w) from hrun w [] nofun
  intro w
  induction w with
  | nil =>
    intro r hascii
    rw [List.append_nil]
    rcases run_cases hascii with hspelled | hbad | ⟨bytes, hbytes, hutf8⟩
    · exact .inl hspelled
    · exact .inr (.inl hbad)
    · exact .inr (.inr ⟨[], r, [], bytes, by simp, nofun, nofun, hbytes, hutf8⟩)
  | cons c w ih =>
    intro r hascii
    by_cases hc : c.toNat < 128
    · have hlonger := ih (r ++ [c]) (List.forall_mem_append.mpr ⟨hascii, by simpa using hc⟩)
      rwa [List.append_assoc] at hlonger
    have hbeyond := Nat.not_lt.mp hc
    rcases run_cases hascii with ⟨s, hspelled⟩ | hbad | ⟨bytes, hbytes, hutf8⟩
    · rcases ih [] nofun with ⟨t, hmore⟩ | hbad | hbroken
      · have hne : c ≠ '%' := by
          rintro rfl
          exact hc (by decide)
        exact .inl ⟨s ++ c :: t, hspelled.append (.plain hne hmore)⟩
      · have hlater := hbad.append_left (r ++ [c])
        rw [List.append_assoc] at hlater
        exact .inr (.inl hlater)
      · exact .inr (.inr (Broken.append_cons hbroken hbeyond r))
    · exact .inr (.inl (hbad.append_cons hbeyond w))
    · exact .inr (.inr ⟨[], r, c :: w, bytes, by simp, nofun, by simpa using hbeyond, hbytes,
        hutf8⟩)

/-! ## Reading -/

theorem decodeRuns_percent (read : Bytes → Option Text) (run : Bytes)
    (h : ∀ a b rest, w = a :: b :: rest → escapedByte? a b = none) :
    decodeRuns read run ('%' :: w) = decodeRuns read (0x25 :: run) w := by
  match w with
  | [] => rfl
  | [a] => rfl
  | a :: b :: rest => rw [decodeRuns, h a b rest rfl]

/-- **A character beyond ASCII ends a run**, and what follows is read on its own. -/
theorem decodeRuns_append_cons (read : Bytes → Option Text) (run : Bytes) (u : Text)
    (hc : 128 ≤ c.toNat) (v : Text) :
    decodeRuns read run (u ++ c :: v) =
      (decodeRuns read run u).bind fun start =>
        (decodeRuns read [] v).bind fun more => some (start ++ c :: more) := by
  have hne : c ≠ '%' := by
    rintro rfl
    exact absurd hc (by decide)
  fun_induction decodeRuns read run u with
  | case1 run =>
    rw [List.nil_append, decodeRuns_cons read run hne, if_neg (by omega)]
    rfl
  | case2 run a b rest byte hbyte ih =>
    rw [List.cons_append, List.cons_append, List.cons_append, decodeRuns, hbyte]
    exact ih
  | case3 run a b rest hbyte ih =>
    rw [List.cons_append, List.cons_append, List.cons_append, decodeRuns, hbyte]
    exact ih
  | case4 run d rest hshort hascii ih =>
    rw [List.cons_append]
    by_cases hd : d = '%'
    · subst hd
      have hnone : ∀ a b more, rest = a :: b :: more → escapedByte? a b = none :=
        fun a b more heq => (hshort a b more rfl heq).elim
      rw [decodeRuns_percent read run (no_escape_append_cons hnone hc v)]
      exact ih
    · rw [decodeRuns_cons read run hd, if_pos hascii]
      exact ih
  | case5 run d rest hshort hbeyond ih =>
    have hd : d ≠ '%' := by
      rintro rfl
      exact hbeyond (by decide)
    rw [List.cons_append, decodeRuns_cons read run hd, if_neg hbeyond, ih]
    cases read run.reverse <;> cases decodeRuns read [] rest <;> cases decodeRuns read [] v <;> simp

theorem decodeRuns_of_runBytes (read : Bytes → Option Text) (run : Bytes) (h : RunBytes r bytes) :
    decodeRuns read run r = read (run.reverse ++ bytes) := by
  induction h generalizing run with
  | nil => rw [decodeRuns, List.append_nil]
  | plain hc hascii _ ih =>
    rw [decodeRuns_cons read run hc, if_pos hascii, ih, List.reverse_cons, List.append_assoc]
    rfl
  | escape hbyte _ ih =>
    rw [decodeRuns, hbyte]
    dsimp only
    rw [ih, List.reverse_cons, List.append_assoc]
    rfl

theorem Broken.decodeRuns (h : Broken w) : decodeRuns Utf8.decode? [] w = none := by
  obtain ⟨u, r, v, bytes, rfl, hu, hv, hbytes, hutf8⟩ := h
  have hrun : Percent.decodeRuns Utf8.decode? [] r = none := by
    rw [decodeRuns_of_runBytes _ [] hbytes]
    exact Utf8.decode?_eq_none hutf8
  have hbehind : Percent.decodeRuns Utf8.decode? [] (r ++ v) = none := by
    cases v with
    | nil => rwa [List.append_nil]
    | cons c v => rw [decodeRuns_append_cons _ _ _ (hv c rfl), hrun, Option.bind_none]
  rcases List.eq_nil_or_concat' u with rfl | ⟨u, c, rfl⟩
  · exact hbehind
  · have hc := hu c List.getLast?_concat
    rw [List.append_assoc, List.append_assoc, List.singleton_append,
      decodeRuns_append_cons _ _ _ hc, hbehind]
    cases Percent.decodeRuns Utf8.decode? [] u <;> rfl

theorem unescape_of_malformed (h : Malformed w) : unescape w = w :=
  if_pos (hasBadEscape_iff.mpr h)

theorem unescape_of_broken (h : Broken w) : unescape w = w := by
  unfold unescape
  rw [h.decodeRuns]
  exact ite_self w

/-- **Escapes are read strictly**: every spelling as the text that it spells, and a text with a
malformed escape or a broken run as itself. There is no other text. -/
theorem unescape_inverts_spelling (w : Text) :
    (∀ t, Spelled w t → unescape w = t) ∧
      (Malformed w ∨ Broken w → unescape w = w) ∧
      ((∃ t, Spelled w t) ∨ Malformed w ∨ Broken w) := by
  refine ⟨fun t h => unescape_of_spelled h, ?_, spelled_or_malformed_or_broken w⟩
  rintro (h | h)
  · exact unescape_of_malformed h
  · exact unescape_of_broken h

/-- An accent as it is, another one in escapes of both cases, and an escaped percent sign. -/
def mixedSpelling : Text := "é%c3%A9%25"

/-- An accent and, behind it, the first half of another one. -/
def brokenAccent : Text := "%C3%A9é%C3("

/-- One text of each kind. -/
theorem unescape_inverts_mixedSpelling :
    (Spelled mixedSpelling "éé%" ∧ unescape mixedSpelling = "éé%".toList) ∧
      (Malformed "%41%4" ∧ unescape "%41%4" = "%41%4".toList) ∧
      Broken brokenAccent ∧ unescape brokenAccent = brokenAccent := by
  have haccent : Escapes "%c3%A9".toList (Utf8.encodeChar 'é') :=
    .cons (by decide) (.cons (by decide) .nil)
  have hpercent : Escapes "%25".toList (Utf8.encodeChar '%') := .cons (by decide) .nil
  have hspelled : Spelled mixedSpelling "éé%" :=
    .plain (by decide) (.escaped haccent (.escaped hpercent .nil))
  have hmalformed : Malformed "%41%4" := hasBadEscape_iff.mp (by decide)
  have hutf8 (s : Text) : [0xC3, 0x28] ≠ Utf8.encode s := by
    intro hs
    have hread : Utf8.decode? [0xC3, 0x28] = none := by decide
    rw [hs, Utf8.decode?_encode] at hread
    cases hread
  have hbytes : RunBytes "%C3(" [0xC3, 0x28] :=
    .escape (by decide) (.plain (by decide) (by decide) .nil)
  have hlast : ∀ c, "%C3%A9é".toList.getLast? = some c → 128 ≤ c.toNat := by
    rintro c ⟨⟩
    decide
  have hbroken : Broken brokenAccent :=
    ⟨"%C3%A9é".toList, "%C3(".toList, [], _, rfl, hlast, nofun, hbytes, hutf8⟩
  exact ⟨⟨hspelled, (unescape_inverts_spelling _).1 _ hspelled⟩,
    ⟨hmalformed, (unescape_inverts_spelling _).2.1 (.inl hmalformed)⟩,
    hbroken, (unescape_inverts_spelling _).2.1 (.inr hbroken)⟩

end LinkHarvest.Percent
