import LinkHarvest.Text.Basic

/-!
# Punycode

An encoding of text in ASCII letters, digits and hyphens. The ASCII characters of the text come
first, followed by a hyphen; then, for every other character in the order of their codes, how many
steps lead to it, where a step moves one place on and, past the last place, to the next code. A
number of steps is written with its lowest digit first and in a base that adapts to the numbers
before it.
-/

namespace LinkHarvest.Text.Punycode

/-! ## Digits -/

/-- The character of a digit: letters for the digits below 26, then decimal digits. -/
def digitChar (d : Nat) : Char := if d < 26 then Char.ofNat (97 + d) else Char.ofNat (22 + d)

/-- The value of a digit; letters of either case count. -/
def digitValue? (c : Char) : Option Nat :=
  if 'a' ≤ c ∧ c ≤ 'z' then some (c.toNat - 97)
  else if 'A' ≤ c ∧ c ≤ 'Z' then some (c.toNat - 65)
  else if c.isDigit then some (c.toNat - 22)
  else none

/-- The least digit that does not end a number, where `weight` is 36 times the place of the digit,
counted from one. -/
def threshold (bias weight : Nat) : Nat := max 1 (min 26 (weight - bias))

theorem one_le_threshold (bias weight : Nat) : 1 ≤ threshold bias weight := by
  unfold threshold; omega

/-- Divides a number of steps by 35 until it is small, and turns it into a bias. -/
def settled (bias steps : Nat) : Nat :=
  if 455 < steps then settled (bias + 36) (steps / 35) else bias + 36 * steps / (steps + 38)
termination_by steps

/-- The bias after a number of steps, of which the text that holds `length` characters has taken
its latest one. -/
def adapted (steps : Nat) (first : Bool) (length : Nat) : Nat :=
  let steps := if first then steps / 700 else steps / 2
  settled 0 (steps + steps / length)

/-! ## Encoding -/

/-- The digits of a number of steps from the digit of the given weight on. -/
def digits (bias weight steps : Nat) : Text :=
  if steps < threshold bias weight then [digitChar steps]
  else
    let rest := steps - threshold bias weight
    let base := 36 - threshold bias weight
    digitChar (threshold bias weight + rest % base) :: digits bias (weight + 36) (rest / base)
termination_by steps
decreasing_by
  have := one_le_threshold bias weight
  exact Nat.lt_of_le_of_lt (Nat.div_le_self _ _) (by omega)

/-- The state of the encoder: what it has written, the steps since the latest character, the bias,
and how many characters are written. -/
structure Encoder where
  written : Text
  steps : Nat
  bias : Nat
  length : Nat

/-- Passes a place of the text while the characters of one code are written. -/
def Encoder.pass (basic code : Nat) (e : Encoder) (c : Char) : Encoder :=
  if c.toNat < code then { e with steps := e.steps + 1 }
  else if c.toNat = code then
    { written := e.written ++ digits e.bias 36 e.steps
      steps := 0
      bias := adapted e.steps (e.length == basic) (e.length + 1)
      length := e.length + 1 }
  else e

/-- Writes the characters whose codes are listed in ascending order, where `code` is the first one
that is not passed yet. -/
def Encoder.writeCodes (t : Text) (basic : Nat) : Nat → List Nat → Encoder → Encoder
  | _, [], e => e
  | code, n :: more, e =>
    let start := { e with steps := e.steps + (n - code) * (e.length + 1) }
    let passed := t.foldl (pass basic n) start
    writeCodes t basic (n + 1) more { passed with steps := passed.steps + 1 }

/-- The codes beyond ASCII in a text, each once and in ascending order. -/
def codes (t : Text) : List Nat :=
  ((t.filter fun c => 128 ≤ c.toNat).map Char.toNat).mergeSort.eraseDups

def encode (t : Text) : Text :=
  let basic := t.filter fun c => c.toNat < 128
  let start := if basic.isEmpty then [] else basic ++ ['-']
  (Encoder.writeCodes t basic.length 128 (codes t) ⟨start, 0, 72, basic.length⟩).written

/-! ## Decoding -/

/-- Reads the digits of a number of steps, of which `steps` are read and the next digit counts
`unit` times. -/
def readSteps (bias weight unit steps : Nat) : Text → Option (Nat × Text)
  | [] => none
  | c :: rest => do
    let d ← digitValue? c
    let t := threshold bias weight
    if d < t then return (steps + d * unit, rest)
    else readSteps bias (weight + 36) (unit * (36 - t)) (steps + d * unit) rest

theorem length_lt_of_readSteps {bias weight unit steps n : Nat} {t rest : Text}
    (h : readSteps bias weight unit steps t = some (n, rest)) : rest.length < t.length := by
  induction t generalizing weight unit steps with
  | nil => simp [readSteps] at h
  | cons c t ih =>
    simp only [readSteps, Option.bind_eq_bind, Option.bind_eq_some_iff] at h
    obtain ⟨d, -, h⟩ := h
    split at h
    · cases h
      simp
    · exact Nat.lt_succ_of_lt (ih h)

/-- Inserts the characters that a text of digits writes. The next one is counted from `code` at
the place `place`. -/
def insertAll (decoded : Text) (code place bias : Nat) (first : Bool) (t : Text) : Option Text :=
  if t.isEmpty then some decoded
  else
    match h : readSteps bias 36 1 0 t with
    | none => none
    | some (steps, rest) =>
      let length := decoded.length + 1
      let code := code + (place + steps) / length
      let place := (place + steps) % length
      if code.isValidChar then
        insertAll (decoded.insertIdx place (Char.ofNat code)) code (place + 1)
          (adapted steps first length) false rest
      else none
termination_by t.length
decreasing_by exact length_lt_of_readSteps h

def decode? (t : Text) : Option Text :=
  match cutLast '-' t with
  | some (basic, rest) => insertAll basic 128 0 72 true rest
  | none => insertAll [] 128 0 72 true t

end LinkHarvest.Text.Punycode
