import LinkHarvest.Proofs.Text.Utf8

/-!
# Reading past bytes that are no text

A reader that skips what it cannot read goes through the bytes one by one: where a character starts
it takes the character, and otherwise it leaves out one byte (`Skimmed`). The bytes are cut into
longer runs when a character breaks off; but within such a run no character starts, so leaving out
the run and leaving out its bytes comes to the same (`skimmed_iff`).
-/

namespace LinkHarvest.Utf8

variable {bytes rest run : Bytes} {b : UInt8} {c : Char} {t : Text}

/-- The text of bytes, without the bytes that start no character. -/
inductive Skimmed : Bytes → Text → Prop
  | nil : Skimmed [] []
  | char (c : Char) {rest : Bytes} {t : Text} (h : Skimmed rest t) :
      Skimmed (encodeChar c ++ rest) (c :: t)
  | skip (b : UInt8) {rest : Bytes} {t : Text} (hstart : ∀ c, ¬ encodeChar c <+: b :: rest)
      (h : Skimmed rest t) : Skimmed (b :: rest) t

/-! ## Runs that start no character -/

/-- A byte that goes on with a character and starts none. -/
def Continues (b : UInt8) : Prop := 0x80 ≤ b.toNat ∧ b.toNat ≤ 0xBF

theorem firstPiece_of_continues (h : Continues b) (rest : Bytes) :
    firstPiece b rest = .bad 1 .start := by
  obtain ⟨hlow, hhigh⟩ := h
  have hlead : lead? b.toNat = none := by
    unfold lead?
    repeat rw [if_neg (by omega)]
  unfold firstPiece
  rw [if_neg (by omega), hlead]

theorem readTails_eq_bad {value taken low high tails n : Nat} {fault : Fault} (hlow : 0x80 ≤ low)
    (hhigh : high ≤ 0xBF) (h : readTails value taken low high tails bytes = .bad n fault) :
    ∃ run more, bytes = run ++ more ∧ n = taken + run.length ∧ ∀ b ∈ run, Continues b := by
  induction tails generalizing value taken low high bytes with
  | zero => cases h
  | succ tails ih =>
    cases bytes with
    | nil =>
      cases h
      exact ⟨[], [], rfl, rfl, by simp⟩
    | cons b bytes =>
      rw [readTails] at h
      split at h
      · rename_i hrange
        obtain ⟨run, more, rfl, rfl, hrun⟩ := ih (by omega) (by omega) h
        refine ⟨b :: run, more, rfl, by rw [List.length_cons]; omega, ?_⟩
        exact List.forall_mem_cons.mpr ⟨⟨by omega, by omega⟩, hrun⟩
      · cases h
        exact ⟨[], b :: bytes, rfl, rfl, by simp⟩

theorem lead?_range {k : Nat} {l : Lead} (h : lead? k = some l) : 0x80 ≤ l.low ∧ l.high ≤ 0xBF := by
  rcases lead?_eq_some h with ⟨k, hk, hk', rfl⟩ | ⟨k, hk, rfl⟩ | ⟨k, hk, rfl⟩
  · rw [lead?_two hk hk'] at h
    cases h
    exact ⟨Nat.le_refl _, Nat.le_refl _⟩
  · rw [lead?_three hk] at h
    cases h
    exact ⟨by dsimp only; split <;> omega, by dsimp only; split <;> omega⟩
  · rw [lead?_four hk] at h
    cases h
    exact ⟨by dsimp only; split <;> omega, by dsimp only; split <;> omega⟩

theorem firstPiece_eq_bad {n : Nat} {fault : Fault} (h : firstPiece b rest = .bad n fault) :
    ∃ run more, rest = run ++ more ∧ n = 1 + run.length ∧ ∀ b ∈ run, Continues b := by
  unfold firstPiece at h
  split at h
  · cases h
  · split at h
    · cases h
      exact ⟨[], rest, rfl, rfl, by simp⟩
    · rename_i hlead
      obtain ⟨hlow, hhigh⟩ := lead?_range hlead
      exact readTails_eq_bad hlow hhigh h

/-! ## Byte by byte -/

theorem decodeSkipping_encodeChar (c : Char) (rest : Bytes) :
    decodeSkipping (encodeChar c ++ rest) = c :: decodeSkipping rest := by
  obtain ⟨b, bytes, hbytes, hpiece⟩ := firstPiece_encodeChar c rest
  unfold decodeSkipping pieces
  rw [hbytes, List.cons_append, piecesAfter, hpiece]
  dsimp only [Piece.count]
  rw [Nat.add_sub_cancel, piecesAfter_append]
  rfl

theorem decodeSkipping_of_bad {n : Nat} {fault : Fault}
    (h : firstPiece b (run ++ rest) = .bad n fault) (hn : n = 1 + run.length) :
    decodeSkipping (b :: (run ++ rest)) = decodeSkipping rest := by
  unfold decodeSkipping pieces
  rw [piecesAfter, h, hn]
  dsimp only [Piece.count]
  rw [Nat.add_sub_cancel_left, piecesAfter_append]
  rfl

theorem decodeSkipping_continues (h : ∀ b ∈ run, Continues b) :
    decodeSkipping (run ++ rest) = decodeSkipping rest := by
  induction run with
  | nil => rfl
  | cons b run ih =>
    obtain ⟨hb, hrun⟩ := List.forall_mem_cons.mp h
    have hbad : firstPiece b ([] ++ (run ++ rest)) = .bad 1 .start := firstPiece_of_continues hb _
    exact (decodeSkipping_of_bad hbad rfl).trans (ih hrun)

theorem decodeSkipping_cons (h : ∀ c, ¬ encodeChar c <+: b :: rest) :
    decodeSkipping (b :: rest) = decodeSkipping rest := by
  cases hpiece : firstPiece b rest with
  | char c n =>
    obtain ⟨more, hbytes, -⟩ := firstPiece_eq_char hpiece
    exact absurd ⟨more, hbytes.symm⟩ (h c)
  | bad n fault =>
    obtain ⟨run, more, rfl, hn, hrun⟩ := firstPiece_eq_bad hpiece
    rw [decodeSkipping_of_bad hpiece hn, decodeSkipping_continues hrun]

theorem encodeChar_ne_nil (c : Char) : encodeChar c ≠ [] := by
  obtain ⟨b, bytes, hbytes, -⟩ := firstPiece_encodeChar c []
  rw [hbytes]
  exact List.cons_ne_nil b bytes

/-- **The skipping reader reads past every byte that starts no character**, and past nothing else. -/
theorem skimmed_iff : Skimmed bytes t ↔ decodeSkipping bytes = t := by
  constructor
  · intro h
    induction h with
    | nil => rfl
    | char c _ ih => rw [decodeSkipping_encodeChar, ih]
    | skip b hstart _ ih => rw [decodeSkipping_cons hstart, ih]
  · rintro rfl
    induction hlength : bytes.length using Nat.strongRecOn generalizing bytes with
    | ind n ih =>
      cases bytes with
      | nil => exact .nil
      | cons b rest =>
        by_cases hstart : ∃ c, encodeChar c <+: b :: rest
        · obtain ⟨c, more, hbytes⟩ := hstart
          have hchar := List.length_pos_of_ne_nil (encodeChar_ne_nil c)
          have hshorter : more.length < n := by
            rw [← hlength, ← hbytes, List.length_append]
            omega
          rw [← hbytes, decodeSkipping_encodeChar]
          exact .char c (ih _ hshorter rfl)
        · have hnone := not_exists.mp hstart
          rw [decodeSkipping_cons hnone]
          exact .skip b hnone (ih _ (by rw [← hlength]; exact Nat.lt_succ_self _) rfl)

end LinkHarvest.Utf8
