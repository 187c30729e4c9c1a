import LinkHarvest.Proofs.Text.Visible
import LinkHarvest.Text.Base64

/-!
# Reading back what is written in base64

Bytes have many base64 forms: in either alphabet or in a mixture of the two, with or without some
of the padding, wrapped at any place, with white space around (`Form`). The tolerant reading takes
all of them for the same bytes (`decodeBody?_text`, `decodeText?_text`). The argument puts the
standard digit in the place of each URL-safe one: this changes nothing for the URL-safe reading,
while the standard reading either sees no difference or refuses (`decode?_standard`). A form on one
line (`Line`) holds signs only, and a slash at its end says that the last byte ends with six set
bits (`Line.getLast?_ne_slash`).

On the other hand a text with a sign that is no base64 sign is no base64 (`decodeBody?_eq_none`).
-/

namespace LinkHarvest.Base64

/-! ## Groups of six bits -/

/-- The six-bit digits of bytes, the last one filled with zeros. -/
def sextets : Bytes → List Nat
  | [] => []
  | [x] => [x.toNat / 4, x.toNat % 4 * 16]
  | [x, y] => [x.toNat / 4, x.toNat % 4 * 16 + y.toNat / 16, y.toNat % 16 * 4]
  | x :: y :: z :: rest =>
    x.toNat / 4 :: (x.toNat % 4 * 16 + y.toNat / 16) :: (y.toNat % 16 * 4 + z.toNat / 64) ::
      z.toNat % 64 :: sextets rest

/-- The number of padding signs after the digits of bytes. -/
def padding : Bytes → Nat
  | [] => 0
  | [_] => 2
  | [_, _] => 1
  | _ :: _ :: _ :: rest => padding rest

theorem encode_eq (a : Alphabet) (bytes : Bytes) :
    encode a bytes = (sextets bytes).map a.digit ++ List.replicate (padding bytes) '=' := by
  induction bytes using sextets.induct with
  | case1 => rfl
  | case2 x => rfl
  | case3 x y => rfl
  | case4 x y z rest ih => rw [encode, ih, sextets, padding]; rfl

theorem sextets_lt (bytes : Bytes) : ∀ n ∈ sextets bytes, n < 64 := by
  induction bytes using sextets.induct with
  | case1 => simp [sextets]
  | case2 x =>
    have hx := x.toNat_lt
    simp only [sextets, List.forall_mem_cons]
    refine ⟨by omega, by omega, by simp⟩
  | case3 x y =>
    have hx := x.toNat_lt
    have hy := y.toNat_lt
    simp only [sextets, List.forall_mem_cons]
    refine ⟨by omega, by omega, by omega, by simp⟩
  | case4 x y z rest ih =>
    have hx := x.toNat_lt
    have hy := y.toNat_lt
    have hz := z.toNat_lt
    simp only [sextets, List.forall_mem_cons]
    exact ⟨by omega, by omega, by omega, by omega, ih⟩

theorem getLast?_sextets {bytes : Bytes} {n : Nat} (h : (sextets bytes).getLast? = some n) :
    n < 63 ∨ ∃ x, bytes.getLast? = some x ∧ x.toNat % 64 = n := by
  induction bytes using sextets.induct with
  | case1 => cases h
  | case2 x =>
    simp only [sextets, List.getLast?_cons_cons, List.getLast?_singleton, Option.some.injEq] at h
    omega
  | case3 x y =>
    simp only [sextets, List.getLast?_cons_cons, List.getLast?_singleton, Option.some.injEq] at h
    omega
  | case4 x y z rest ih =>
    cases rest with
    | nil =>
      cases h
      exact .inr ⟨z, rfl, rfl⟩
    | cons w rest =>
      have hne : sextets (w :: rest) ≠ [] := by
        rcases rest with _ | ⟨v, _ | ⟨u, rest⟩⟩ <;> simp [sextets]
      obtain ⟨m, ms, hsextets⟩ := List.exists_cons_of_ne_nil hne
      rw [sextets, hsextets] at h
      have hlast := ih (by rw [hsextets]; simpa [List.getLast?_cons_cons] using h)
      simpa [List.getLast?_cons_cons] using hlast

theorem ofNat_eq {x : UInt8} {n : Nat} (h : n % 256 = x.toNat) : UInt8.ofNat n = x := by
  apply UInt8.toNat_inj.mp
  rw [UInt8.toNat_ofNat']
  exact h

theorem bytesOf_sextets (bytes : Bytes) : bytesOf (sextets bytes) = bytes := by
  induction bytes using sextets.induct with
  | case1 => rfl
  | case2 x =>
    have hx := x.toNat_lt
    rw [sextets, bytesOf, ofNat_eq (x := x) (by omega)]
  | case3 x y =>
    have hx := x.toNat_lt
    have hy := y.toNat_lt
    rw [sextets, bytesOf, ofNat_eq (x := x) (by omega), ofNat_eq (x := y) (by omega)]
  | case4 x y z rest ih =>
    have hx := x.toNat_lt
    have hy := y.toNat_lt
    have hz := z.toNat_lt
    rw [sextets, bytesOf, ih, ofNat_eq (x := x) (by omega), ofNat_eq (x := y) (by omega),
      ofNat_eq (x := z) (by omega)]

theorem padding_le (bytes : Bytes) : padding bytes ≤ 2 := by
  induction bytes using sextets.induct with
  | case1 => simp [padding]
  | case2 x => simp [padding]
  | case3 x y => simp [padding]
  | case4 x y z rest ih => exact ih

theorem length_encode_mod (a : Alphabet) (bytes : Bytes) : (encode a bytes).length % 4 = 0 := by
  induction bytes using sextets.induct with
  | case1 => rfl
  | case2 x => simp [encode]
  | case3 x y => simp [encode]
  | case4 x y z rest ih =>
    rw [encode]
    simp only [List.length_cons]
    omega

theorem paddingFits_sextets (bytes : Bytes) :
    paddingFits (sextets bytes).length (padding bytes) = true := by
  induction bytes using sextets.induct with
  | case1 => rfl
  | case2 x => rfl
  | case3 x y => rfl
  | case4 x y z rest ih =>
    unfold paddingFits at ih ⊢
    rw [sextets, padding]
    simp only [List.length_cons]
    have hmod : ((sextets rest).length + 1 + 1 + 1 + 1) % 4 = (sextets rest).length % 4 := by omega
    rw [hmod]
    split
    · simp
    · simp_all
    · simp_all
    · simp_all

/-! ## Digits as characters -/

theorem standard_digit {n : Nat} (h : n < 64) :
    Alphabet.standard.value? (Alphabet.standard.digit n) = some n ∧
      Alphabet.standard.digit n ≠ '=' := by
  have hall : ∀ n < 64, Alphabet.standard.value? (Alphabet.standard.digit n) = some n ∧
      Alphabet.standard.digit n ≠ '=' := by decide
  exact hall n h

/-- The standard digit in the place of a URL-safe one. -/
def standardDigit (c : Char) : Char := if c = '-' then '+' else if c = '_' then '/' else c

theorem standardDigit_eq_padding {c : Char} : standardDigit c = '=' ↔ c = '=' := by
  unfold standardDigit
  split
  · simp_all
  · split
    · simp_all
    · rfl

theorem urlSafe_value? (c : Char) :
    Alphabet.urlSafe.value? c = Alphabet.standard.value? (standardDigit c) := by
  unfold standardDigit
  by_cases hminus : c = '-'
  · subst hminus
    rfl
  · rw [if_neg hminus]
    by_cases hunder : c = '_'
    · subst hunder
      rfl
    · rw [if_neg hunder]
      simp [Alphabet.value?, hminus, hunder]

theorem standard_value? (c : Char) :
    Alphabet.standard.value? c = none ∨
      Alphabet.standard.value? c = Alphabet.urlSafe.value? c := by
  rw [urlSafe_value?]
  unfold standardDigit
  by_cases hminus : c = '-'
  · subst hminus
    exact .inl rfl
  · rw [if_neg hminus]
    by_cases hunder : c = '_'
    · subst hunder
      exact .inl rfl
    · exact .inr (by rw [if_neg hunder])

theorem standardDigit_digit (a : Alphabet) {n : Nat} (h : n < 64) :
    standardDigit (a.digit n) = Alphabet.standard.digit n := by
  have hall : ∀ n < 64, standardDigit (a.digit n) = Alphabet.standard.digit n := by
    cases a <;> decide
  exact hall n h

theorem map_standardDigit_encode (a : Alphabet) (bytes : Bytes) :
    (encode a bytes).map standardDigit = encode .standard bytes := by
  rw [encode_eq, encode_eq, List.map_append, List.map_map, List.map_replicate]
  congr 1
  exact List.map_congr_left fun n hn => standardDigit_digit a (sextets_lt bytes n hn)

/-! ## Strict reading -/

theorem mapM_value? {digits : List Nat} (h : ∀ n ∈ digits, n < 64) :
    (digits.map Alphabet.standard.digit).mapM Alphabet.standard.value? = some digits := by
  induction digits with
  | nil => rfl
  | cons n digits ih =>
    obtain ⟨hn, hrest⟩ := List.forall_mem_cons.mp h
    rw [List.map_cons, List.mapM_cons, (standard_digit hn).1, ih hrest]
    rfl

theorem decode?_encode (bytes : Bytes) :
    decode? .standard (encode .standard bytes) = some bytes := by
  have hdigits : ∀ c ∈ (sextets bytes).map Alphabet.standard.digit, decide (c ≠ '=') = true := by
    intro c hc
    obtain ⟨n, hn, rfl⟩ := List.mem_map.mp hc
    exact decide_eq_true (standard_digit (sextets_lt bytes n hn)).2
  have hpads : ∀ k, (List.replicate k '=').takeWhile (fun c => decide (c ≠ '=')) = [] ∧
      (List.replicate k '=').dropWhile (fun c => decide (c ≠ '=')) = List.replicate k '=' := by
    intro k
    cases k <;> simp [List.replicate_succ]
  unfold decode?
  rw [encode_eq, List.takeWhile_append_of_pos hdigits, List.dropWhile_append_of_pos hdigits,
    (hpads _).1, (hpads _).2, List.append_nil]
  dsimp only
  rw [mapM_value? (sextets_lt bytes), List.length_map, List.length_replicate,
    paddingFits_sextets, Option.map_some, bytesOf_sextets]
  simp

theorem mapM_urlSafe (t : Text) :
    t.mapM Alphabet.urlSafe.value? = (t.map standardDigit).mapM Alphabet.standard.value? := by
  rw [List.mapM_map]
  congr 1
  funext c
  exact urlSafe_value? c

theorem decode?_urlSafe (t : Text) :
    decode? .urlSafe t = decode? .standard (t.map standardDigit) := by
  have hpads : ((fun c => decide (c ≠ '=')) ∘ standardDigit) = fun c => decide (c ≠ '=') := by
    funext c
    simp [standardDigit_eq_padding]
  have hall : ((fun c => decide (c = '=')) ∘ standardDigit) = fun c => decide (c = '=') := by
    funext c
    simp [standardDigit_eq_padding]
  unfold decode?
  simp only [List.takeWhile_map, List.dropWhile_map, hpads, List.all_map, hall, List.length_map,
    mapM_urlSafe]

theorem mapM_standard (t : Text) :
    t.mapM Alphabet.standard.value? = none ∨
      t.mapM Alphabet.standard.value? = t.mapM Alphabet.urlSafe.value? := by
  induction t with
  | nil => exact .inr rfl
  | cons c t ih =>
    rw [List.mapM_cons, List.mapM_cons]
    rcases standard_value? c with hc | hc
    · exact .inl (by rw [hc]; rfl)
    · rw [hc]
      cases Alphabet.urlSafe.value? c with
      | none => exact .inr rfl
      | some n =>
        rcases ih with ht | ht
        · exact .inl (by rw [ht]; rfl)
        · exact .inr (by rw [ht])

theorem decode?_standard (t : Text) :
    decode? .standard t = none ∨ decode? .standard t = decode? .urlSafe t := by
  unfold decode?
  dsimp only
  split
  · rcases mapM_standard (t.takeWhile fun c => decide (c ≠ '=')) with h | h
    · exact .inl (by rw [h]; rfl)
    · exact .inr (by rw [h])
  · exact .inl rfl

theorem decode?_of_spelling {bytes : Bytes} {t : Text}
    (h : t.map standardDigit = encode .standard bytes) :
    ((decode? .standard t).orElse fun _ => decode? .urlSafe t) = some bytes := by
  have hsafe : decode? .urlSafe t = some bytes := by rw [decode?_urlSafe, h, decode?_encode]
  rcases decode?_standard t with hstandard | hstandard
  · rw [hstandard, hsafe]
    rfl
  · rw [hstandard, hsafe]
    rfl

/-! ## Signs -/

/-- The characters of base64 texts, in either alphabet. -/
def isSign (c : Char) : Bool := c.isAlphanum || "+/-_=".toList.contains c

theorem isSign_digit {n : Nat} (h : n < 64) : isSign (Alphabet.standard.digit n) = true := by
  have hall : ∀ n < 64, isSign (Alphabet.standard.digit n) = true := by decide
  exact hall n h

theorem isSign_of_mem_encode {bytes : Bytes} {c : Char} (h : c ∈ encode .standard bytes) :
    isSign c = true := by
  rw [encode_eq] at h
  rcases List.mem_append.mp h with h | h
  · obtain ⟨n, hn, rfl⟩ := List.mem_map.mp h
    exact isSign_digit (sextets_lt bytes n hn)
  · rw [(List.mem_replicate.mp h).2]
    decide

theorem isSign_of_standardDigit {c : Char} (h : isSign (standardDigit c) = true) :
    isSign c = true := by
  unfold standardDigit at h
  split at h
  · subst c
    decide
  · split at h
    · subst c
      decide
    · exact h

theorem isSign_iff {c : Char} : isSign c = true ↔
    ('A' ≤ c ∧ c ≤ 'Z') ∨ ('a' ≤ c ∧ c ≤ 'z') ∨ ('0' ≤ c ∧ c ≤ '9') ∨
      c ∈ ['+', '/', '-', '_', '='] := by
  simp [isSign, Text.isAlphanum_iff, Text.isUpper_iff, Text.isLower_iff, Text.isDigit_iff,
    or_assoc]

theorem isSign_visible {c : Char} (h : isSign c = true) : 33 ≤ c.toNat ∧ c.toNat < 128 := by
  rcases Bool.or_eq_true_iff.mp h with h | h
  · exact Text.visible_of_isAlphanum h
  · have hall : ∀ c ∈ "+/-_=".toList, 33 ≤ c.toNat ∧ c.toNat < 128 :=
      Text.forall_mem_of_all (by decide)
    exact hall c (List.contains_iff_mem.mp h)

theorem value?_eq_none {c : Char} (a : Alphabet) (h : isSign c = false) : a.value? c = none := by
  rw [← Bool.not_eq_true, isSign_iff] at h
  simp only [List.mem_cons, not_or] at h
  obtain ⟨hupper, hlower, hdigit, hplus, hslash, hminus, hunder, -⟩ := h
  unfold Alphabet.value?
  rw [if_neg hupper, if_neg hlower, if_neg hdigit, if_neg hplus, if_neg hslash]
  cases a with
  | standard => rfl
  | urlSafe => simp only [if_neg hminus, if_neg hunder]

theorem mapM_value?_eq_none {c : Char} {t : Text} (a : Alphabet) (hc : c ∈ t)
    (h : isSign c = false) : t.mapM a.value? = none := by
  induction hc with
  | head t => rw [List.mapM_cons, value?_eq_none a h]; rfl
  | tail d _ ih =>
    rw [List.mapM_cons, ih]
    cases a.value? d <;> rfl

theorem decode?_eq_none {c : Char} {t : Text} (a : Alphabet) (hc : c ∈ t)
    (h : isSign c = false) : decode? a t = none := by
  have hpad : c ≠ '=' := by
    rintro rfl
    cases h
  unfold decode?
  dsimp only
  -- The character stands among the digits, or among the padding.
  rw [← t.takeWhile_append_dropWhile (p := fun c => decide (c ≠ '='))] at hc
  rcases List.mem_append.mp hc with hc | hc
  · rw [mapM_value?_eq_none a hc h]
    simp
  · rw [if_neg]
    intro hfits
    have hall := List.all_eq_true.mp (Bool.and_eq_true_iff.mp hfits).1 c hc
    exact hpad (of_decide_eq_true hall)

/-! ## Forms -/

/-- A base64 form of bytes: some padding may be missing, line breaks may stand anywhere, and white
space at both ends. Each digit may be spelled in either alphabet. -/
structure Form (bytes : Bytes) where
  start : Text
  wrapped : Text
  stop : Text
  missing : Nat
  outer : ∀ c ∈ start ++ stop, Text.isBlank c = true ∧ c.toNat < 128
  spells : (wrapped.without ['\n', '\r']).map standardDigit ++ List.replicate missing '=' =
    encode .standard bytes

namespace Form

variable {bytes : Bytes}

theorem outer_nil : ∀ c ∈ ([] : Text) ++ [], Text.isBlank c = true ∧ c.toNat < 128 :=
  List.forall_mem_nil _

def spelled (a : Alphabet) (start wrapped stop : Text) (missing : Nat)
    (outer : ∀ c ∈ start ++ stop, Text.isBlank c = true ∧ c.toNat < 128)
    (spells : wrapped.without ['\n', '\r'] ++ List.replicate missing '=' = encode a bytes) :
    Form bytes where
  start := start
  wrapped := wrapped
  stop := stop
  missing := missing
  outer := outer
  spells := by
    rw [← map_standardDigit_encode a, ← spells, List.map_append, List.map_replicate]
    rfl

def text (f : Form bytes) : Text := f.start ++ f.wrapped ++ f.stop

/-- The written form without its line breaks. -/
def payload (f : Form bytes) : Text := f.wrapped.without ['\n', '\r']

theorem isSign_payload (f : Form bytes) {c : Char} (hc : c ∈ f.payload) : isSign c = true := by
  have hmem : standardDigit c ∈ encode .standard bytes := by
    rw [← f.spells]
    exact List.mem_append_left _ (List.mem_map_of_mem hc)
  exact isSign_of_standardDigit (isSign_of_mem_encode hmem)

theorem mem_wrapped (f : Form bytes) {c : Char} (hc : c ∈ f.wrapped) :
    c ∈ ['\n', '\r'] ∨ isSign c = true := by
  by_cases hbreak : c ∈ ['\n', '\r']
  · exact .inl hbreak
  · exact .inr (f.isSign_payload (List.mem_filter.mpr ⟨hc, by simpa using hbreak⟩))

theorem missing_le (f : Form bytes) : f.missing ≤ 2 := by
  have hdigits : ((sextets bytes).map Alphabet.standard.digit).count '=' = 0 := by
    refine List.count_eq_zero_of_not_mem fun hmem => ?_
    obtain ⟨n, hn, hpad⟩ := List.mem_map.mp hmem
    exact (standard_digit (sextets_lt bytes n hn)).2 hpad
  have hcount := congrArg (List.count '=') f.spells
  rw [encode_eq, List.count_append, List.count_append, hdigits] at hcount
  simp only [List.count_replicate_self] at hcount
  have hpadding := padding_le bytes
  omega

theorem map_completed (f : Form bytes) :
    (completed f.payload).map standardDigit = encode .standard bytes := by
  have hlength := congrArg List.length f.spells
  rw [List.length_append, List.length_map, List.length_replicate] at hlength
  have hmissing : (4 - f.payload.length % 4) % 4 = f.missing := by
    have hle := f.missing_le
    have hmod := length_encode_mod .standard bytes
    rw [← hlength] at hmod
    change (f.payload.length + f.missing) % 4 = 0 at hmod
    omega
  rw [completed, List.map_append, List.map_replicate, hmissing, ← f.spells]
  rfl

theorem compact_text (f : Form bytes) : compact f.text = f.payload := by
  -- The outer blanks of the wrapped form are line breaks, since its other characters are visible.
  obtain ⟨u, v, hu, hv, hwrapped⟩ := Text.exists_trim f.wrapped
  have hbreak : ∀ c, Text.isBlank c = true → c ∈ f.wrapped → c ∈ ['\n', '\r'] := by
    intro c hblank hc
    rcases f.mem_wrapped hc with h | h
    · exact h
    · obtain ⟨hlow, hhigh⟩ := isSign_visible h
      rw [Text.isBlank_of_visible hlow hhigh] at hblank
      cases hblank
  have houter : ∀ w : Text, (∀ c ∈ w, Text.isBlank c = true) → (∀ c ∈ w, c ∈ f.wrapped) →
      w.without ['\n', '\r'] = [] := by
    intro w hw hmem
    refine List.filter_eq_nil_iff.mpr fun c hc => ?_
    simpa [or_iff_not_imp_left] using hbreak c (hw c hc) (hmem c hc)
  have hcore : f.payload = (Text.trim f.wrapped).without ['\n', '\r'] := by
    have hu' := houter u hu fun c hc => by rw [hwrapped]; simp [hc]
    have hv' := houter v hv fun c hc => by rw [hwrapped]; simp [hc]
    unfold payload
    conv_lhs => rw [hwrapped]
    unfold Text.without at hu' hv' ⊢
    rw [List.filter_append, List.filter_append, hu', hv', List.nil_append, List.append_nil]
  have htext : f.text = (f.start ++ u) ++ Text.trim f.wrapped ++ (v ++ f.stop) := by
    unfold text
    conv_lhs => rw [hwrapped]
    simp only [List.append_assoc]
  have hstart : ∀ c ∈ f.start ++ u, Text.isBlank c = true := by
    intro c hc
    rcases List.mem_append.mp hc with hc | hc
    · exact (f.outer c (List.mem_append_left _ hc)).1
    · exact hu c hc
  have hstop : ∀ c ∈ v ++ f.stop, Text.isBlank c = true := by
    intro c hc
    rcases List.mem_append.mp hc with hc | hc
    · exact hv c hc
    · exact (f.outer c (List.mem_append_right _ hc)).1
  rw [compact, htext, Text.trim_append_append hstart hstop (Text.tight_trim _), hcore]

theorem payload_ne_nil (f : Form bytes) (h : bytes ≠ []) : f.payload ≠ [] := by
  intro hnil
  have hencode := f.map_completed
  rw [hnil] at hencode
  have hdecode := decode?_encode bytes
  rw [← hencode] at hdecode
  exact h (Option.some.inj hdecode).symm

theorem isAscii_text (f : Form bytes) : ∀ c ∈ f.text, c.toNat < 128 := by
  intro c hc
  rcases List.mem_append.mp hc with hc | hc
  · rcases List.mem_append.mp hc with hc | hc
    · exact (f.outer c (List.mem_append_left _ hc)).2
    · rcases f.mem_wrapped hc with h | h
      · have hall : ∀ c ∈ ['\n', '\r'], c.toNat < 128 := Text.forall_mem_of_all (by decide)
        exact hall c h
      · exact (isSign_visible h).2
  · exact (f.outer c (List.mem_append_right _ hc)).2

end Form

/-! ## Forms on one line -/

/-- A base64 form without white space: only some padding may be missing. -/
structure Line (bytes : Bytes) where
  text : Text
  missing : Nat
  spells : text.map standardDigit ++ List.replicate missing '=' = encode .standard bytes

namespace Line

variable {bytes : Bytes}

/-- The line that a text in one alphabet is. -/
def spelled (a : Alphabet) (text : Text) (missing : Nat)
    (spells : text ++ List.replicate missing '=' = encode a bytes) : Line bytes where
  text := text
  missing := missing
  spells := by
    rw [← map_standardDigit_encode a, ← spells, List.map_append, List.map_replicate]
    rfl

theorem isSign_text (l : Line bytes) {c : Char} (hc : c ∈ l.text) : isSign c = true := by
  have hmem : standardDigit c ∈ encode .standard bytes := by
    rw [← l.spells]
    exact List.mem_append_left _ (List.mem_map_of_mem hc)
  exact isSign_of_standardDigit (isSign_of_mem_encode hmem)

theorem not_mem_text (l : Line bytes) {c : Char} (h : isSign c = false) : c ∉ l.text := by
  intro hc
  rw [l.isSign_text hc] at h
  cases h

theorem visible_text (l : Line bytes) : Text.Visible l.text := fun _ hc =>
  isSign_visible (l.isSign_text hc)

/-- The line as a form without anything around or inside. -/
def form (l : Line bytes) : Form bytes where
  start := []
  wrapped := l.text
  stop := []
  missing := l.missing
  outer := Form.outer_nil
  spells := by
    have hwhole : l.text.without ['\n', '\r'] = l.text := by
      refine List.filter_eq_self.mpr fun c hc => ?_
      have hne : c ≠ '\n' ∧ c ≠ '\r' := by
        constructor <;> rintro rfl <;> exact l.not_mem_text (by decide) hc
      simp [hne]
    rw [hwhole]
    exact l.spells

theorem text_form (l : Line bytes) : l.form.text = l.text := List.append_nil _

/-- A line does not end with a slash unless the lower six bits of the last byte are all set. -/
theorem getLast?_ne_slash (l : Line bytes)
    (h : ∀ x, bytes.getLast? = some x → x.toNat % 64 ≠ 63) : l.text.getLast? ≠ some '/' := by
  intro hlast
  obtain ⟨start, hstart⟩ := List.getLast?_eq_some_iff.mp hlast
  -- Read from the end, the slash comes first after the padding, so it is the last digit.
  have hreverse : List.replicate l.missing '=' ++ '/' :: (start.map standardDigit).reverse =
      List.replicate (padding bytes) '=' ++
        ((sextets bytes).map Alphabet.standard.digit).reverse := by
    have hspells := congrArg List.reverse l.spells
    rw [encode_eq, hstart] at hspells
    have hslash : standardDigit '/' = '/' := rfl
    simpa [hslash] using hspells
  have hpads (k : Nat) (t : Text) :
      (List.replicate k '=' ++ t).dropWhile (fun c => decide (c = '=')) =
        t.dropWhile fun c => decide (c = '=') := List.dropWhile_append_of_pos (by simp)
  have hdrop := congrArg (List.dropWhile fun c => decide (c = '=')) hreverse
  rw [hpads, hpads, List.dropWhile_cons_of_neg (by decide)] at hdrop
  cases hdigits : ((sextets bytes).map Alphabet.standard.digit).reverse with
  | nil =>
    rw [hdigits] at hdrop
    cases hdrop
  | cons c rest =>
    obtain ⟨n, hn, hc⟩ : ∃ n, (sextets bytes).getLast? = some n ∧
        Alphabet.standard.digit n = c := by
      rw [← Option.map_eq_some_iff, ← List.getLast?_map, ← List.head?_reverse, hdigits]
      rfl
    have hlt := sextets_lt bytes n (List.mem_of_getLast? hn)
    obtain ⟨hread, hpad⟩ := standard_digit hlt
    rw [hc] at hread hpad
    rw [hdigits, List.dropWhile_cons_of_neg (by simpa using hpad)] at hdrop
    have hslash : '/' = c := (List.cons.inj hdrop).1
    have hvalue : n = 63 := by
      rw [← hslash] at hread
      exact (Option.some.inj hread).symm
    rcases getLast?_sextets hn with hsmall | ⟨x, hx, hbits⟩
    · omega
    · exact h x hx (hbits.trans hvalue)

end Line

/-! ## Tolerant reading -/

/-- **Every form of bytes is read as the text of the bytes.** -/
theorem decodeBody?_text {bytes : Bytes} (f : Form bytes) (h : bytes ≠ []) :
    decodeBody? f.text = Utf8.decode? bytes := by
  unfold decodeBody?
  dsimp only
  rw [f.compact_text, decode?_of_spelling f.map_completed]
  simp [f.payload_ne_nil h]

theorem decodeText?_text {bytes : Bytes} (f : Form bytes) :
    decodeText? f.text = Utf8.decode? bytes := by
  have hsafe : decode? .urlSafe (completed f.payload) = some bytes := by
    rw [decode?_urlSafe, f.map_completed, decode?_encode]
  unfold decodeText?
  dsimp only
  rw [f.compact_text]
  rcases decode?_standard (completed f.payload) with hstandard | hstandard
  · rw [hstandard, hsafe]
    rfl
  · rw [hstandard, hsafe, Option.bind_some]
    cases Utf8.decode? bytes <;> rfl

theorem decodeBody?_eq_none {c : Char} {t : Text} (hc : c ∈ compact t) (h : isSign c = false) :
    decodeBody? t = none := by
  have hpayload (a : Alphabet) : decode? a (completed (compact t)) = none :=
    decode?_eq_none a (List.mem_append_left _ hc) h
  unfold decodeBody?
  dsimp only
  rw [hpayload, hpayload]
  split <;> rfl

end LinkHarvest.Base64
