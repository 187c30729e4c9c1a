import LinkHarvest.Json.Reader
import Mathlib.Data.List.TakeWhile
import Mathlib.Tactic.FinCases

/-!
# JSON strings and numbers

The two tokens of JSON that can be written in several ways. `Spells` says which texts stand between
the quotes of a string, escape by escape; `Numeral` holds the parts of a number. Each token is read
as what it says, whatever follows it (`stringBody_append`, `number_append`).

A string ends at its quote, so nothing has to be known about the rest of the text. A number has no
end of its own: what follows must not go on with it (`Ends`).
-/

namespace LinkHarvest.Json

variable {c : Char} {t rest : Text}

/-! ## Strings -/

/-- A text goes on with the second half of a surrogate pair. -/
def StartsLow (w : Text) : Prop :=
  ∃ e f g h m rest, w = '\\' :: 'u' :: e :: f :: g :: h :: rest ∧ hex4? e f g h = some m ∧
    isLowHalf m = true

/-- What may stand between quotes for a text. A half of a surrogate pair stands alone when its other
half does not follow. -/
inductive Spells : Text → LooseText → Prop
  | nil : Spells [] []
  | plain {c : Char} {w : Text} {t : LooseText} (printable : 32 ≤ c.toNat)
      (free : c ≠ '"' ∧ c ≠ '\\') : Spells w t → Spells (c :: w) (.char c :: t)
  | short {c e : Char} {w : Text} {t : LooseText} (stands : shortEscape? c = some e) :
      Spells w t → Spells ('\\' :: c :: w) (.char e :: t)
  | code {a b c d : Char} {n : Nat} {w : Text} {t : LooseText} (stands : hex4? a b c d = some n)
      (alone : isHighHalf n = true → ¬StartsLow w) :
      Spells w t → Spells ('\\' :: 'u' :: a :: b :: c :: d :: w) (escaped n :: t)
  | pair {a b c d e f g h : Char} {n m : Nat} {w : Text} {t : LooseText}
      (high : hex4? a b c d = some n ∧ isHighHalf n = true)
      (low : hex4? e f g h = some m ∧ isLowHalf m = true) : Spells w t →
      Spells ('\\' :: 'u' :: a :: b :: c :: d :: '\\' :: 'u' :: e :: f :: g :: h :: w)
        (.char (Char.ofNat (0x10000 + (n - 0xD800) * 1024 + (m - 0xDC00))) :: t)

theorem Spells.ofText {t : Text} (h : ∀ c ∈ t, 32 ≤ c.toNat ∧ c ≠ '"' ∧ c ≠ '\\') :
    Spells t (.ofText t) := by
  induction t with
  | nil => exact .nil
  | cons c t ih =>
    obtain ⟨hc, ht⟩ := List.forall_mem_cons.mp h
    exact .plain hc.1 hc.2 (ih ht)

theorem shortEscape?_u : shortEscape? 'u' = none := rfl

theorem Spells.hex4?_of_code {e f g h : Char} {w : Text} {u : LooseText}
    (hspells : Spells w u) {rest' : Text}
    (heq : w ++ '"' :: rest = '\\' :: 'u' :: e :: f :: g :: h :: rest') :
    ∃ m w', hex4? e f g h = some m ∧ w = '\\' :: 'u' :: e :: f :: g :: h :: w' := by
  cases hspells with
  | nil => cases heq
  | plain _ free _ => exact absurd (List.cons.inj heq).1 free.2
  | short stands _ =>
    rw [(List.cons.inj (List.cons.inj heq).2).1, shortEscape?_u] at stands
    cases stands
  | @code a b c d n w t stands _ _ =>
    cases heq
    exact ⟨n, w, stands, rfl⟩
  | @pair a b c d e f g h n m w t high _ _ =>
    cases heq
    exact ⟨n, _, high.1, rfl⟩

theorem withPoint_ok (p : CodePoint) (t : LooseText) (rest : Text) :
    withPoint p (.ok (t, rest)) = .ok (p :: t, rest) := rfl

/-- **What stands between quotes is read as the text it spells.** -/
theorem stringBody_append {w : Text} {u : LooseText} (h : Spells w u) (left : Nat) (rest : Text) :
    stringBody left (w ++ '"' :: rest) = .ok (u, rest) := by
  induction h with
  | nil => rfl
  | plain printable free _ ih =>
    rw [List.cons_append, stringBody, ih, if_neg (by omega), withPoint_ok]
    · exact free.1
    · rintro rfl
      exact absurd rfl free.2
    · exact fun _ _ _ _ _ h => absurd h free.2
    · exact fun _ h => absurd h free.2
    · exact fun _ _ h => absurd h free.2
  | @short c e w t stands _ ih =>
    have hu : c ≠ 'u' := by
      rintro rfl
      rw [shortEscape?_u] at stands
      cases stands
    rw [List.cons_append, List.cons_append, stringBody, stands, ih]
    · rfl
    · exact fun _ _ _ _ _ h => absurd h hu
    · exact fun h => absurd h hu
  | @code a b c d n w t stands alone hw ih =>
    have hempty : ¬(w ++ '"' :: rest).isEmpty = true := by simp
    simp only [List.cons_append]
    rw [stringBody, if_neg hempty, stands]
    dsimp only
    split
    · rename_i e f g h rest' heq
      obtain ⟨m, w', hread, rfl⟩ := hw.hex4?_of_code heq
      rw [← heq, ih]
      split
      · rename_i hhigh
        have hlow : ¬isLowHalf m = true := fun hlow =>
          alone (Bool.and_eq_true_iff.mp hhigh).1 ⟨_, _, _, _, _, _, rfl, hread, hlow⟩
        rw [hread]
        dsimp only
        rw [if_neg hlow]
        rfl
      · rfl
    · rw [ih]
      rfl
  | @pair a b c d e f g h n m w t high low _ ih =>
    have hempty : (w ++ '"' :: rest).isEmpty = false := by simp
    simp only [List.cons_append]
    rw [stringBody, if_neg (by simp), high.1]
    dsimp only
    split
    · rename_i heq
      cases heq
      rw [high.2, hempty, low.1]
      dsimp only
      rw [low.2, ih]
      rfl
    · rename_i hother
      exact absurd rfl (hother e f g h _)

/-! ## Numbers -/

/-- Nothing follows that would go on with a number. -/
def Ends (rest : Text) : Prop :=
  ∀ c, rest.head? = some c → c.isDigit = false ∧ c ≠ '.' ∧ c ≠ 'e' ∧ c ≠ 'E'

/-- The exponent of a number. -/
structure Exponent where
  mark : Char
  sign : Option Bool
  digits : Text
  mark_mem : mark = 'e' ∨ mark = 'E'
  digits_ne_nil : digits ≠ []
  digits_chars : ∀ c ∈ digits, c.isDigit = true

namespace Exponent

/-- The exponent after its mark. A sign may be left out. -/
def tail (e : Exponent) : Text :=
  match e.sign with
  | none => e.digits
  | some false => '+' :: e.digits
  | some true => '-' :: e.digits

def text (e : Exponent) : Text := e.mark :: e.tail

def value (e : Exponent) : Int := Integer.signed (e.sign == some true) (digitsValue e.digits)

end Exponent

/-- A number by its parts. No zero comes before other digits of the whole part, which is short
enough to be read if it stands alone. -/
structure Numeral where
  negative : Bool
  whole : Text
  fraction : Text
  exponent : Option Exponent
  whole_chars : whole = ['0'] ∨
    ∃ c rest, whole = c :: rest ∧ c ≠ '0' ∧ ∀ d ∈ whole, d.isDigit = true
  fraction_chars : ∀ c ∈ fraction, c.isDigit = true
  short : fraction = [] → exponent = none → whole.length ≤ Integer.digitLimit

namespace Numeral

def fractionText (n : Numeral) : Text := if n.fraction = [] then [] else '.' :: n.fraction

def exponentText (n : Numeral) : Text := (n.exponent.map Exponent.text).getD []

def magnitudeText (n : Numeral) : Text := n.whole ++ n.fractionText ++ n.exponentText

def text (n : Numeral) : Text := if n.negative then '-' :: n.magnitudeText else n.magnitudeText

/-- A number without fraction and exponent is an integer. -/
def value (n : Numeral) : Value :=
  if n.fraction = [] ∧ n.exponent = none then .int (Integer.signed n.negative (digitsValue n.whole))
  else .float (.ofDecimal n.negative (digitsValue (n.whole ++ n.fraction))
    ((n.exponent.map Exponent.value).getD 0 - n.fraction.length))

end Numeral

/-! ### Parts of a number -/

theorem spanDigits_append (hdigits : ∀ c ∈ t, c.isDigit = true)
    (hend : ∀ c, rest.head? = some c → c.isDigit = false) : spanDigits (t ++ rest) = (t, rest) := by
  rw [spanDigits, List.takeWhile_append_of_pos hdigits, List.dropWhile_append_of_pos hdigits]
  cases rest with
  | nil => simp
  | cons c rest => simp [hend c rfl]

theorem exponentPart_of_ends (h : Ends rest) : exponentPart rest = (none, rest) := by
  cases rest with
  | nil => rfl
  | cons c rest =>
    obtain ⟨-, -, hlower, hupper⟩ := h c rfl
    exact if_neg (by simp [hlower, hupper])

theorem Exponent.sign_tail (e : Exponent) (rest : Text) :
    Integer.sign (e.tail ++ rest) = (e.sign == some true, e.digits ++ rest) := by
  unfold tail
  cases e.sign with
  | none =>
    obtain ⟨c, more, hdigits⟩ := List.exists_cons_of_ne_nil e.digits_ne_nil
    have hc : c.isDigit = true := e.digits_chars c (by simp [hdigits])
    dsimp only
    rw [hdigits, List.cons_append, Integer.sign]
    · rfl
    · intro _ heq
      rw [(List.cons.inj heq).1] at hc
      cases hc
    · intro _ heq
      rw [(List.cons.inj heq).1] at hc
      cases hc
  | some negative => cases negative <;> rfl

theorem Exponent.exponentPart_append (e : Exponent) (h : Ends rest) :
    exponentPart (e.text ++ rest) = (some e.value, rest) := by
  have hspan := spanDigits_append e.digits_chars fun c hc => (h c hc).1
  have hempty : e.digits.isEmpty = false := by simpa using e.digits_ne_nil
  rw [text, List.cons_append, exponentPart, if_pos e.mark_mem, e.sign_tail]
  dsimp only
  rw [hspan]
  dsimp only
  rw [hempty]
  rfl

namespace Numeral

variable (n : Numeral)

theorem exists_whole : ∃ c rest, n.whole = c :: rest ∧ c.isDigit = true := by
  rcases n.whole_chars with h | ⟨c, rest, h, -, hdigits⟩
  · exact ⟨_, _, h, by decide⟩
  · exact ⟨c, rest, h, hdigits c (by simp [h])⟩

theorem wholePart_append (hend : ∀ c, rest.head? = some c → c.isDigit = false) :
    wholePart (n.whole ++ rest) = some (n.whole, rest) := by
  rcases n.whole_chars with h | ⟨c, more, h, hzero, hdigits⟩
  · rw [h]
    rfl
  · have hspan := spanDigits_append hdigits hend
    have hc : c.isDigit = true := hdigits c (by simp [h])
    rw [h, List.cons_append] at hspan ⊢
    rw [wholePart, if_pos hc, hspan]
    exact fun h => hzero h

theorem head?_exponentText (hend : Ends rest) {c : Char}
    (hc : (n.exponentText ++ rest).head? = some c) : c.isDigit = false ∧ c ≠ '.' := by
  unfold exponentText at hc
  cases hexponent : n.exponent with
  | none =>
    rw [hexponent] at hc
    exact ⟨(hend c hc).1, (hend c hc).2.1⟩
  | some e =>
    rw [hexponent] at hc
    cases hc
    rcases e.mark_mem with h | h <;> rw [h] <;> decide

theorem exponentPart_append (hend : Ends rest) :
    exponentPart (n.exponentText ++ rest) = (n.exponent.map Exponent.value, rest) := by
  unfold exponentText
  cases n.exponent with
  | none => exact exponentPart_of_ends hend
  | some e => exact e.exponentPart_append hend

theorem fractionPart_append (hend : ∀ c, rest.head? = some c → c.isDigit = false ∧ c ≠ '.') :
    fractionPart (n.fractionText ++ rest) = (n.fraction, rest) := by
  unfold fractionText
  split
  · rename_i hnil
    rw [hnil, List.nil_append, fractionPart]
    rintro more rfl
    exact (hend '.' rfl).2 rfl
  · rename_i hne
    have hspan := spanDigits_append n.fraction_chars fun c hc => (hend c hc).1
    have htake : (n.fraction ++ rest).takeWhile Char.isDigit = n.fraction := congrArg Prod.fst hspan
    rw [List.cons_append, fractionPart, htake, if_neg (by simpa using hne), hspan]

theorem head?_fractionText (hend : Ends rest) {c : Char}
    (hc : (n.fractionText ++ (n.exponentText ++ rest)).head? = some c) : c.isDigit = false := by
  unfold fractionText at hc
  split at hc
  · exact (n.head?_exponentText hend hc).1
  · cases hc
    decide

theorem magnitude_append (left : Nat) (hend : Ends rest) :
    magnitude left n.negative (n.magnitudeText ++ rest) = .ok (n.value, rest) := by
  have hwhole := n.wholePart_append fun c => n.head?_fractionText (c := c) hend
  have hfraction := n.fractionPart_append fun c => n.head?_exponentText (c := c) hend
  have hexponent := n.exponentPart_append hend
  have htext : n.magnitudeText ++ rest =
      n.whole ++ (n.fractionText ++ (n.exponentText ++ rest)) := by
    simp [magnitudeText]
  unfold magnitude value
  rw [htext, hwhole]
  dsimp only
  rw [hfraction]
  dsimp only
  rw [hexponent]
  dsimp only
  by_cases hplain : n.fraction = [] ∧ n.exponent = none
  · have hshort := n.short hplain.1 hplain.2
    simp [hplain, Nat.not_lt.mpr hshort]
  · have hparts : ¬(n.fraction.isEmpty && (n.exponent.map Exponent.value).isNone) = true := by
      simpa using hplain
    rw [if_neg hparts, if_neg hplain]

/-- **A number is read as its value.** -/
theorem number_append (hend : Ends rest) : number (n.text ++ rest) = .ok (n.value, rest) := by
  obtain ⟨c, more, hwhole, hc⟩ := n.exists_whole
  have hmagnitude (left : Nat) := n.magnitude_append left hend
  unfold text
  cases hnegative : n.negative with
  | true =>
    rw [hnegative] at hmagnitude
    exact hmagnitude _
  | false =>
    rw [hnegative] at hmagnitude
    rw [if_neg Bool.false_ne_true, number]
    · exact hmagnitude _
    · intro _ heq
      rw [magnitudeText, hwhole] at heq
      rw [(List.cons.inj heq).1] at hc
      cases hc

end Numeral

end LinkHarvest.Json
