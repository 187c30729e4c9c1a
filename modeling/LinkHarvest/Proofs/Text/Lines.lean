import LinkHarvest.Proofs.Text.Cut
import LinkHarvest.Text.Lines

/-!
# The lines of a text file

A line ends with a line feed, a carriage return, or the two in this order, and the last one ends
with the text (`HasLines`). Every text has lines, and they are what cutting at line feeds gives once
all line ends are written as line feeds (`hasLines_iff`). The one thing to look after is a carriage
return before a line feed: together they end one line, not two.
-/

namespace LinkHarvest.Text

variable {line t : Text} {ls : List Text}

/-- No line ends within the text. -/
def Unbroken (line : Text) : Prop := '\n' ∉ line ∧ '\r' ∉ line

/-- The ways to end a line that is followed by another one. -/
inductive LineEnd : Text → Text → Prop
  | lineFeed (t : Text) : LineEnd ['\n'] t
  | carriageReturn {t : Text} (h : t.head? ≠ some '\n') : LineEnd ['\r'] t
  | both (t : Text) : LineEnd ['\r', '\n'] t

/-- The text consists of the lines, each but the last with its end. -/
inductive HasLines : Text → List Text → Prop
  | last {line : Text} (h : Unbroken line) : HasLines line [line]
  | ended {line ending t : Text} {ls : List Text} (h : Unbroken line) (hend : LineEnd ending t)
      (ht : HasLines t ls) : HasLines (line ++ ending ++ t) (line :: ls)

/-! ## Line ends as line feeds -/

theorem withLineFeeds_cons {c : Char} (h : c ≠ '\r') (t : Text) :
    withLineFeeds (c :: t) = c :: withLineFeeds t := by
  apply withLineFeeds.eq_4
  · intro rest heq
    exact absurd heq h
  · exact h

theorem withLineFeeds_append (h : '\r' ∉ line) (t : Text) :
    withLineFeeds (line ++ t) = line ++ withLineFeeds t := by
  induction line with
  | nil => rfl
  | cons c line ih =>
    obtain ⟨hc, hline⟩ := not_or.mp (mt List.mem_cons.mpr h)
    rw [List.cons_append, withLineFeeds_cons (Ne.symm hc), ih hline, List.cons_append]

theorem withLineFeeds_of_not_mem (h : '\r' ∉ t) : withLineFeeds t = t := by
  have happend := withLineFeeds_append h []
  rwa [List.append_nil, withLineFeeds, List.append_nil] at happend

theorem LineEnd.withLineFeeds {ending : Text} (h : LineEnd ending t) :
    withLineFeeds (ending ++ t) = '\n' :: withLineFeeds t := by
  cases h with
  | lineFeed => exact withLineFeeds_cons (by decide) t
  | both => rfl
  | carriageReturn hnext =>
    cases t with
    | nil => rfl
    | cons c t =>
      have hc : c ≠ '\n' := fun heq => hnext (congrArg some heq)
      rw [List.cons_append, List.nil_append, Text.withLineFeeds.eq_3]
      intro rest heq
      cases heq
      exact hc rfl

/-! ## Lines -/

theorem HasLines.split (h : HasLines t ls) : Text.split '\n' (withLineFeeds t) = ls := by
  induction h with
  | last h =>
    rw [withLineFeeds_of_not_mem h.2]
    exact split_of_not_mem h.1
  | ended h hend _ ih =>
    rw [List.append_assoc, withLineFeeds_append h.2, hend.withLineFeeds, split_append_cons h.1, ih]

theorem unbroken_or_ended (t : Text) :
    Unbroken t ∨
      ∃ line ending rest, t = line ++ ending ++ rest ∧ Unbroken line ∧ LineEnd ending rest := by
  induction t with
  | nil => exact .inl ⟨List.not_mem_nil, List.not_mem_nil⟩
  | cons c t ih =>
    by_cases hfeed : c = '\n'
    · subst hfeed
      exact .inr ⟨[], _, t, rfl, ⟨List.not_mem_nil, List.not_mem_nil⟩, .lineFeed t⟩
    by_cases hreturn : c = '\r'
    · subst hreturn
      have hnil : Unbroken [] := ⟨List.not_mem_nil, List.not_mem_nil⟩
      by_cases hnext : t.head? = some '\n'
      · obtain ⟨rest, rfl⟩ := List.head?_eq_some_iff.mp hnext
        exact .inr ⟨[], _, rest, rfl, hnil, .both rest⟩
      · exact .inr ⟨[], _, t, rfl, hnil, .carriageReturn hnext⟩
    have hcons : ∀ line, Unbroken line → Unbroken (c :: line) := by
      rintro line ⟨hno, hno'⟩
      simp [Unbroken, hno, hno', Ne.symm hfeed, Ne.symm hreturn]
    rcases ih with ht | ⟨line, ending, rest, rfl, hline, hend⟩
    · exact .inl (hcons t ht)
    · exact .inr ⟨c :: line, ending, rest, rfl, hcons line hline, hend⟩

/-- What holds of one line, and of a text when it holds of what follows its first line, holds of
every text. -/
theorem induction_on_lines {P : Text → Prop} (last : ∀ {t}, Unbroken t → P t)
    (ended : ∀ {line ending rest}, Unbroken line → LineEnd ending rest → P rest →
      P (line ++ ending ++ rest)) (t : Text) : P t := by
  induction hlength : t.length using Nat.strongRecOn generalizing t with
  | ind n ih =>
    rcases unbroken_or_ended t with ht | ⟨line, ending, rest, rfl, hline, hend⟩
    · exact last ht
    · have hshorter : rest.length < n := by
        have hending : 0 < ending.length := by cases hend <;> simp
        simp only [List.length_append] at hlength
        omega
      exact ended hline hend (ih rest.length hshorter rest rfl)

theorem exists_hasLines (t : Text) : ∃ ls, HasLines t ls := by
  induction t using induction_on_lines with
  | last h => exact ⟨_, .last h⟩
  | ended hline hend ih =>
    obtain ⟨ls, hls⟩ := ih
    exact ⟨_, .ended hline hend hls⟩

/-- **A text has one list of lines.** -/
theorem hasLines_iff : HasLines t ls ↔ split '\n' (withLineFeeds t) = ls := by
  refine ⟨HasLines.split, ?_⟩
  rintro rfl
  obtain ⟨ls, hls⟩ := exists_hasLines t
  rwa [hls.split]

example : HasLines "a\r\nb\r\rc\n" ["a".toList, "b".toList, [], "c".toList, []] :=
  hasLines_iff.mpr (by decide)

end LinkHarvest.Text
