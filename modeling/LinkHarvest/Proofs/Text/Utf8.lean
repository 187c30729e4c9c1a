import LinkHarvest.Text.Utf8
import Mathlib.Data.List.Basic

/-!
# Reading back what is written in UTF-8

The bytes of a text are cut into the characters of the text and nothing else (`pieces_encode`), so
all three readers give the text back. The argument goes character by character: the first byte says
how many follow and in which range the next one lies, and the ranges leave out exactly the long
forms, the halves of surrogate pairs and the numbers beyond Unicode (`firstPiece_encodeChar`). For
the same reason nothing else is read: a piece that is read as a character consists of the bytes of
this character (`firstPiece_eq_char`), so the strict reader refuses just what is not the bytes of a
text (`decode_eq_ok`).
-/

namespace LinkHarvest.Utf8

/-! ## First bytes -/

theorem lead?_two {k : Nat} (hk : 2 ≤ k) (hk' : k < 32) :
    lead? (0xC0 + k) = some ⟨k, 1, 0x80, 0xBF⟩ := by
  unfold lead?
  rw [if_pos (by omega), Nat.add_sub_cancel_left]

theorem lead?_three {k : Nat} (hk : k < 16) :
    lead? (0xE0 + k) =
      some ⟨k, 2, if k = 0 then 0xA0 else 0x80, if k = 13 then 0x9F else 0xBF⟩ := by
  unfold lead?
  rw [if_neg (by omega)]
  by_cases h0 : k = 0
  · subst h0
    rfl
  · rw [if_neg (by omega)]
    by_cases h13 : k = 13
    · subst h13
      rfl
    · rw [if_neg (by omega), if_pos (by omega), if_neg h0, if_neg h13, Nat.add_sub_cancel_left]

theorem lead?_four {k : Nat} (hk : k < 5) :
    lead? (0xF0 + k) =
      some ⟨k, 3, if k = 0 then 0x90 else 0x80, if k = 4 then 0x8F else 0xBF⟩ := by
  unfold lead?
  rw [if_neg (by omega), if_neg (by omega), if_neg (by omega), if_neg (by omega)]
  by_cases h0 : k = 0
  · subst h0
    rfl
  · rw [if_neg (by omega)]
    by_cases h4 : k = 4
    · subst h4
      rfl
    · rw [if_neg (by omega), if_pos (by omega), if_neg h0, if_neg h4, Nat.add_sub_cancel_left]

/-! ## One character -/

theorem toNat_ofNat {n : Nat} (h : n < 256) : (UInt8.ofNat n).toNat = n := by
  rw [UInt8.toNat_ofNat']
  exact Nat.mod_eq_of_lt h

theorem readTails_cons {value taken low high tails m : Nat} {rest : Bytes} (hm : m < 64)
    (hlow : low ≤ 0x80 + m) (hhigh : 0x80 + m ≤ high) :
    readTails value taken low high (tails + 1) (UInt8.ofNat (0x80 + m) :: rest) =
      readTails (value * 64 + m) (taken + 1) 0x80 0xBF tails rest := by
  rw [readTails, toNat_ofNat (by omega), if_pos ⟨hlow, hhigh⟩, Nat.add_sub_cancel_left]

theorem char_toNat_bound (c : Char) : c.toNat < 0xD800 ∨ 0xDFFF < c.toNat ∧ c.toNat < 0x110000 :=
  c.valid

theorem firstPiece_encodeChar (c : Char) (rest : Bytes) :
    ∃ b bytes, encodeChar c = b :: bytes ∧
      firstPiece b (bytes ++ rest) = .char c (bytes.length + 1) := by
  have hvalid := char_toNat_bound c
  have hc : Char.ofNat c.toNat = c := Char.ofNat_toNat c
  unfold encodeChar encodePoint firstPiece
  generalize c.toNat = n at hvalid hc ⊢
  by_cases h1 : n < 0x80
  · refine ⟨_, [], if_pos h1, ?_⟩
    rw [toNat_ofNat (by omega), if_pos h1, hc]
    rfl
  rw [if_neg h1]
  by_cases h2 : n < 0x800
  · refine ⟨_, _, if_pos h2, ?_⟩
    have hvalue : n / 64 * 64 + n % 64 = n := by omega
    rw [toNat_ofNat (by omega), if_neg (by omega), lead?_two (by omega) (by omega)]
    dsimp only [List.cons_append, List.nil_append]
    rw [readTails_cons (by omega) (by omega) (by omega), readTails, hvalue, hc]
    rfl
  rw [if_neg h2]
  by_cases h3 : n < 0x10000
  · refine ⟨_, _, if_pos h3, ?_⟩
    have hvalue : (n / 4096 * 64 + n / 64 % 64) * 64 + n % 64 = n := by omega
    rw [toNat_ofNat (by omega), if_neg (by omega), lead?_three (by omega)]
    dsimp only [List.cons_append, List.nil_append]
    rw [readTails_cons (by omega) (by split <;> omega) (by split <;> omega),
      readTails_cons (by omega) (by omega) (by omega), readTails, hvalue, hc]
    rfl
  · refine ⟨_, _, if_neg h3, ?_⟩
    have hvalue :
        ((n / 262144 * 64 + n / 4096 % 64) * 64 + n / 64 % 64) * 64 + n % 64 = n := by omega
    rw [toNat_ofNat (by omega), if_neg (by omega), lead?_four (by omega)]
    dsimp only [List.cons_append, List.nil_append]
    rw [readTails_cons (by omega) (by split <;> omega) (by split <;> omega),
      readTails_cons (by omega) (by omega) (by omega),
      readTails_cons (by omega) (by omega) (by omega), readTails, hvalue, hc]
    rfl

/-! ## A text -/

@[simp] theorem encode_nil : encode [] = [] := rfl

@[simp] theorem encode_cons (c : Char) (t : Text) :
    encode (c :: t) = encodeChar c ++ encode t := rfl

theorem encode_append (t u : Text) : encode (t ++ u) = encode t ++ encode u := List.flatMap_append

theorem piecesAfter_append (bytes rest : Bytes) :
    piecesAfter bytes.length (bytes ++ rest) = piecesAfter 0 rest := by
  induction bytes with
  | nil => rfl
  | cons b bytes ih => exact ih

/-- **The bytes of a text are cut into its characters.** -/
theorem pieces_encode (t : Text) :
    pieces (encode t) = t.map fun c => .char c (encodeChar c).length := by
  induction t with
  | nil => rfl
  | cons c t ih =>
    obtain ⟨b, bytes, hbytes, hpiece⟩ := firstPiece_encodeChar c (encode t)
    rw [encode_cons, List.map_cons, hbytes, ← ih, pieces, List.cons_append, piecesAfter, hpiece]
    exact congrArg _ (piecesAfter_append bytes (encode t))

theorem charsOf_chars (t : Text) (count : Char → Nat) (position : Nat) :
    charsOf position (t.map fun c => .char c (count c)) = .ok t := by
  induction t generalizing position with
  | nil => rfl
  | cons c t ih =>
    rw [List.map_cons, charsOf, ih]
    rfl

theorem decode_encode (t : Text) : decode (encode t) = .ok t := by
  rw [decode, pieces_encode, charsOf_chars]
  rfl

theorem decode?_encode (t : Text) : decode? (encode t) = some t := by
  rw [decode?, decode, pieces_encode, charsOf_chars]
  rfl

theorem charsOf_ne_nil {ps : List Piece} (hne : ps ≠ []) (position : Nat) :
    charsOf position ps ≠ .ok [] := by
  cases ps with
  | nil => exact absurd rfl hne
  | cons p ps =>
    cases p with
    | char c n =>
      rw [charsOf]
      cases charsOf (position + n) ps <;> simp [Except.map]
    | bad n fault => simp [charsOf]

theorem pieces_ne_nil {bytes : Bytes} (hne : bytes ≠ []) : pieces bytes ≠ [] := by
  obtain ⟨b, rest, rfl⟩ := List.exists_cons_of_ne_nil hne
  simp [pieces, piecesAfter]

theorem decode?_ne_nil {bytes : Bytes} (hne : bytes ≠ []) : decode? bytes ≠ some [] := by
  have hchars := charsOf_ne_nil (pieces_ne_nil hne) 0
  unfold decode? decode
  cases hread : charsOf 0 (pieces bytes) with
  | error e => simp [Except.mapError, Except.toOption]
  | ok t =>
    rintro ht
    cases ht
    exact hchars hread

theorem decodeReplacing_encode (t : Text) : decodeReplacing (encode t) = t := by
  rw [decodeReplacing, pieces_encode, List.map_map]
  exact List.map_id t

/-! ## ASCII -/

theorem encodeChar_ascii {c : Char} (h : c.toNat < 128) : encodeChar c = [UInt8.ofNat c.toNat] :=
  if_pos h

theorem encode_ascii {t : Text} (h : ∀ c ∈ t, c.toNat < 128) :
    encode t = t.map fun c => UInt8.ofNat c.toNat := by
  induction t with
  | nil => rfl
  | cons c t ih =>
    obtain ⟨hc, ht⟩ := List.forall_mem_cons.mp h
    rw [encode_cons, encodeChar_ascii hc, ih ht]
    rfl

theorem getLast?_encode {t : Text} {c : Char} (h : t.getLast? = some c) (hc : c.toNat < 128) :
    (encode t).getLast? = some (UInt8.ofNat c.toNat) := by
  obtain ⟨start, rfl⟩ := List.getLast?_eq_some_iff.mp h
  rw [encode_append, encode_cons, encodeChar_ascii hc]
  exact List.getLast?_concat

theorem chars_encode_ascii {t : Text} (h : ∀ c ∈ t, c.toNat < 128) :
    (encode t).map (fun b => Char.ofNat b.toNat) = t := by
  rw [encode_ascii h, List.map_map]
  refine (List.map_congr_left fun c hc => ?_).trans (List.map_id t)
  have hc := h c hc
  simp only [Function.comp]
  rw [toNat_ofNat (by omega), Char.ofNat_toNat]
  rfl

theorem bytes_encode_ascii {t : Text} (h : ∀ c ∈ t, c.toNat < 128) :
    ∀ b ∈ encode t, b.toNat < 128 := by
  rw [encode_ascii h]
  refine List.forall_mem_map.mpr fun c hc => ?_
  have hc := h c hc
  rwa [toNat_ofNat (by omega)]

theorem beyond_ofNat {n : Nat} (h : 128 ≤ n) (h' : n < 256) : 128 ≤ (UInt8.ofNat n).toNat := by
  rwa [toNat_ofNat h']

theorem bytes_of_not_ascii {c : Char} (h : 128 ≤ c.toNat) : ∀ b ∈ encodeChar c, 128 ≤ b.toNat := by
  have hvalid := char_toNat_bound c
  unfold encodeChar encodePoint
  generalize c.toNat = n at hvalid h ⊢
  rw [if_neg (by omega)]
  split
  · simp only [List.forall_mem_cons]
    exact ⟨beyond_ofNat (by omega) (by omega), beyond_ofNat (by omega) (by omega), nofun⟩
  · split
    · simp only [List.forall_mem_cons]
      exact ⟨beyond_ofNat (by omega) (by omega), beyond_ofNat (by omega) (by omega),
        beyond_ofNat (by omega) (by omega), nofun⟩
    · simp only [List.forall_mem_cons]
      exact ⟨beyond_ofNat (by omega) (by omega), beyond_ofNat (by omega) (by omega),
        beyond_ofNat (by omega) (by omega), beyond_ofNat (by omega) (by omega), nofun⟩

theorem all_encode_lt (t : Text) :
    (encode t).all (·.toNat < 128) = true ↔ ∀ c ∈ t, c.toNat < 128 := by
  rw [List.all_eq_true]
  constructor
  · intro h c hc
    by_contra hbeyond
    obtain ⟨b, bytes, hbytes, -⟩ := firstPiece_encodeChar c []
    have hb : b ∈ encodeChar c := by
      rw [hbytes]
      exact List.mem_cons_self
    have hhigh := bytes_of_not_ascii (Nat.not_lt.mp hbeyond) b hb
    have hlt := h b (List.mem_flatMap.mpr ⟨c, hc, hb⟩)
    have hlt : b.toNat < 128 := by simpa using hlt
    omega
  · intro h b hb
    simpa using bytes_encode_ascii h b hb

/-! ## Bytes that can be read -/

theorem readTails_eq_char {value taken low high tails n : Nat} {bytes : Bytes} {c : Char}
    (hlow : 0x80 ≤ low) (h : readTails value taken low high (tails + 1) bytes = .char c n) :
    ∃ m rest, low ≤ 0x80 + m ∧ 0x80 + m ≤ high ∧ bytes = UInt8.ofNat (0x80 + m) :: rest ∧
      readTails (value * 64 + m) (taken + 1) 0x80 0xBF tails rest = .char c n := by
  cases bytes with
  | nil => cases h
  | cons b rest =>
    rw [readTails] at h
    split at h
    · rename_i hrange
      have hm : 0x80 + (b.toNat - 0x80) = b.toNat := by omega
      refine ⟨b.toNat - 0x80, rest, by omega, by omega, ?_, h⟩
      rw [hm, UInt8.ofNat_toNat]
    · cases h

theorem lead?_eq_some {b : Nat} {l : Lead} (h : lead? b = some l) :
    (∃ k, 2 ≤ k ∧ k < 32 ∧ b = 0xC0 + k) ∨ (∃ k, k < 16 ∧ b = 0xE0 + k) ∨
      ∃ k, k < 5 ∧ b = 0xF0 + k := by
  by_contra hnone
  have hbounds : ¬ (0xC2 ≤ b ∧ b ≤ 0xDF) ∧ ¬ (0xE0 ≤ b ∧ b ≤ 0xEF) ∧ ¬ (0xF0 ≤ b ∧ b ≤ 0xF4) := by
    refine ⟨fun hb => hnone (.inl ⟨b - 0xC0, ?_⟩), fun hb => hnone (.inr (.inl ⟨b - 0xE0, ?_⟩)),
      fun hb => hnone (.inr (.inr ⟨b - 0xF0, ?_⟩))⟩ <;> omega
  unfold lead? at h
  rw [if_neg (by omega), if_neg (by omega), if_neg (by omega), if_neg (by omega),
    if_neg (by omega), if_neg (by omega), if_neg (by omega)] at h
  cases h

theorem toNat_char {n : Nat} (h : n < 0xD800 ∨ 0xDFFF < n ∧ n < 0x110000) :
    (Char.ofNat n).toNat = n := by
  unfold Char.ofNat
  rw [dif_pos h]
  rfl

theorem encodeChar_two {k m : Nat} (hk : 2 ≤ k) (hk' : k < 32) (hm : m < 64) :
    encodeChar (Char.ofNat (k * 64 + m)) = [UInt8.ofNat (0xC0 + k), UInt8.ofNat (0x80 + m)] := by
  have hfirst : (k * 64 + m) / 64 = k := by omega
  have hlast : (k * 64 + m) % 64 = m := by omega
  unfold encodeChar encodePoint
  rw [toNat_char (by omega), if_neg (by omega), if_pos (by omega), hfirst, hlast]

/-- The conditions leave out long forms and halves of surrogate pairs. -/
theorem encodeChar_three {k m m' : Nat} (hk : k < 16) (hlong : k = 0 → 32 ≤ m)
    (hhalf : k = 13 → m < 32) (hm : m < 64) (hm' : m' < 64) :
    encodeChar (Char.ofNat ((k * 64 + m) * 64 + m')) =
      [UInt8.ofNat (0xE0 + k), UInt8.ofNat (0x80 + m), UInt8.ofNat (0x80 + m')] := by
  have hfirst : ((k * 64 + m) * 64 + m') / 4096 = k := by omega
  have hmiddle : ((k * 64 + m) * 64 + m') / 64 % 64 = m := by omega
  have hlast : ((k * 64 + m) * 64 + m') % 64 = m' := by omega
  unfold encodeChar encodePoint
  rw [toNat_char (by omega), if_neg (by omega), if_neg (by omega), if_pos (by omega), hfirst,
    hmiddle, hlast]

/-- The conditions leave out long forms and numbers beyond Unicode. -/
theorem encodeChar_four {k m m' m'' : Nat} (hk : k < 5) (hlong : k = 0 → 16 ≤ m)
    (hbeyond : k = 4 → m < 16) (hm : m < 64) (hm' : m' < 64) (hm'' : m'' < 64) :
    encodeChar (Char.ofNat (((k * 64 + m) * 64 + m') * 64 + m'')) =
      [UInt8.ofNat (0xF0 + k), UInt8.ofNat (0x80 + m), UInt8.ofNat (0x80 + m'),
        UInt8.ofNat (0x80 + m'')] := by
  have hfirst : (((k * 64 + m) * 64 + m') * 64 + m'') / 262144 = k := by omega
  have hsecond : (((k * 64 + m) * 64 + m') * 64 + m'') / 4096 % 64 = m := by omega
  have hthird : (((k * 64 + m) * 64 + m') * 64 + m'') / 64 % 64 = m' := by omega
  have hlast : (((k * 64 + m) * 64 + m') * 64 + m'') % 64 = m'' := by omega
  unfold encodeChar encodePoint
  rw [toNat_char (by omega), if_neg (by omega), if_neg (by omega), if_neg (by omega), hfirst,
    hsecond, hthird, hlast]

theorem firstPiece_eq_char {b : UInt8} {rest : Bytes} {c : Char} {n : Nat}
    (h : firstPiece b rest = .char c n) :
    ∃ more, b :: rest = encodeChar c ++ more ∧ n = (encodeChar c).length := by
  have hb : b = UInt8.ofNat b.toNat := UInt8.ofNat_toNat.symm
  unfold firstPiece at h
  generalize b.toNat = k at h hb
  subst hb
  split at h
  · rename_i hascii
    cases h
    rw [encodeChar_ascii (by rwa [toNat_char (by omega)]), toNat_char (by omega)]
    exact ⟨rest, rfl, rfl⟩
  cases hlead : lead? k with
  | none =>
    rw [hlead] at h
    cases h
  | some l =>
    rw [hlead] at h
    rcases lead?_eq_some hlead with ⟨k, hk, hk', rfl⟩ | ⟨k, hk, rfl⟩ | ⟨k, hk, rfl⟩
    · rw [lead?_two hk hk'] at hlead
      cases hlead
      dsimp only at h
      obtain ⟨m, more, -, hhigh, rfl, hread⟩ := readTails_eq_char (by omega) h
      cases hread
      rw [encodeChar_two hk hk' (by omega)]
      exact ⟨more, rfl, rfl⟩
    · rw [lead?_three hk] at hlead
      cases hlead
      dsimp only at h
      obtain ⟨m, more, hlow, hhigh, rfl, hread⟩ := readTails_eq_char (by split <;> omega) h
      obtain ⟨m', more, -, hhigh', rfl, hread'⟩ := readTails_eq_char (by omega) hread
      cases hread'
      rw [encodeChar_three hk (by split at hlow <;> omega) (by split at hhigh <;> omega)
        (by split at hhigh <;> omega) (by omega)]
      exact ⟨more, rfl, rfl⟩
    · rw [lead?_four hk] at hlead
      cases hlead
      dsimp only at h
      obtain ⟨m, more, hlow, hhigh, rfl, hread⟩ := readTails_eq_char (by split <;> omega) h
      obtain ⟨m', more, -, hhigh', rfl, hread'⟩ := readTails_eq_char (by omega) hread
      obtain ⟨m'', more, -, hhigh'', rfl, hread''⟩ := readTails_eq_char (by omega) hread'
      cases hread''
      rw [encodeChar_four hk (by split at hlow <;> omega) (by split at hhigh <;> omega)
        (by split at hhigh <;> omega) (by omega) (by omega)]
      exact ⟨more, rfl, rfl⟩

theorem encode_of_charsOf {bytes : Bytes} {t : Text} {position : Nat}
    (h : charsOf position (pieces bytes) = .ok t) : bytes = encode t := by
  induction t generalizing bytes position with
  | nil =>
    by_contra hne
    exact charsOf_ne_nil (pieces_ne_nil hne) position h
  | cons c t ih =>
    cases bytes with
    | nil => cases h
    | cons b rest =>
      rw [pieces, piecesAfter] at h
      cases hpiece : firstPiece b rest with
      | bad count fault =>
        rw [hpiece] at h
        cases h
      | char d n =>
        obtain ⟨more, hbytes, hn⟩ := firstPiece_eq_char hpiece
        rw [hpiece, charsOf] at h
        cases htail : charsOf (position + n) (piecesAfter (n - 1) rest) with
        | error e =>
          rw [Piece.count, htail] at h
          cases h
        | ok u =>
          rw [Piece.count, htail] at h
          cases h
          obtain ⟨first, others, hchar, -⟩ := firstPiece_encodeChar c []
          rw [hchar, List.cons_append, List.cons.injEq] at hbytes
          obtain ⟨rfl, rfl⟩ := hbytes
          have hskip : n - 1 = others.length := by rw [hn, hchar]; rfl
          rw [hskip, piecesAfter_append] at htail
          rw [encode_cons, hchar, ← ih htail]
          rfl

/-- **Bytes are read as a text just when they are its bytes.** -/
theorem decode_eq_ok {bytes : Bytes} {t : Text} : decode bytes = .ok t ↔ bytes = encode t := by
  constructor
  · intro h
    unfold decode at h
    cases hread : charsOf 0 (pieces bytes) with
    | error e =>
      rw [hread] at h
      cases h
    | ok u =>
      rw [hread] at h
      cases h
      exact encode_of_charsOf hread
  · rintro rfl
    exact decode_encode t

theorem decode?_eq_none {bytes : Bytes} (h : ∀ t, bytes ≠ encode t) : decode? bytes = none := by
  unfold decode?
  cases hread : decode bytes with
  | error p => rfl
  | ok t => exact absurd (decode_eq_ok.mp hread) (h t)

end LinkHarvest.Utf8
