import LinkHarvest.Log.Tail
import LinkHarvest.Proofs.Text.Lines
import LinkHarvest.Proofs.Text.Skimmed

/-!
# The end of a log

A log file is text with bytes that may be no text, and lines with several kinds of ends. What its
lines are is said by `Utf8.Skimmed` and `Logged`, without the functions that find them. A tail of a
positive length is the end of these lines (`tail_of_log`). A tail of no lines is not: no lines are
asked for by the number that also stands for the whole log.
-/

namespace LinkHarvest.Log

open Text

variable {line ending t : Text} {ls : List Text} {m n : Nat}

/-- The lines of a text, each with a line feed in place of its end. The last one may lack an end. -/
inductive Logged : Text → List Text → Prop
  | none : Logged [] []
  | last {line : Text} (h : Unbroken line) (hne : line ≠ []) : Logged line [line]
  | ended {line ending t : Text} {ls : List Text} (h : Unbroken line) (hend : LineEnd ending t)
      (ht : Logged t ls) : Logged (line ++ ending ++ t) ((line ++ ['\n']) :: ls)

/-! ## Raw lines -/

theorem rawLines_append (h : '\n' ∉ line) (t : Text) :
    rawLines (line ++ '\n' :: t) = (line ++ ['\n']) :: rawLines t := by
  induction line with
  | nil => rfl
  | cons c line ih =>
    obtain ⟨hc, hline⟩ := List.ne_and_not_mem_of_not_mem_cons h
    rw [List.cons_append, rawLines, if_neg (Ne.symm hc), ih hline]
    rfl

theorem rawLines_of_not_mem (h : '\n' ∉ line) (hne : line ≠ []) : rawLines line = [line] := by
  induction line with
  | nil => exact absurd rfl hne
  | cons c line ih =>
    obtain ⟨hc, hline⟩ := List.ne_and_not_mem_of_not_mem_cons h
    rw [rawLines, if_neg (Ne.symm hc)]
    cases line with
    | nil => rfl
    | cons d line => rw [ih hline (List.cons_ne_nil d line)]

theorem flatten_rawLines (t : Text) : (rawLines t).flatten = t := by
  induction t with
  | nil => rfl
  | cons c t ih =>
    unfold rawLines
    split
    · rename_i hc
      rw [List.flatten_cons, ih, hc]
      rfl
    · cases hlines : rawLines t with
      | nil =>
        rw [hlines] at ih
        rw [← ih]
        rfl
      | cons line more =>
        rw [hlines] at ih
        rw [← ih]
        rfl

theorem Logged.rawLines (h : Logged t ls) : rawLines (withLineFeeds t) = ls := by
  induction h with
  | none => rfl
  | last h hne =>
    rw [withLineFeeds_of_not_mem h.2]
    exact rawLines_of_not_mem h.1 hne
  | ended h hend _ ih =>
    rw [List.append_assoc, withLineFeeds_append h.2, hend.withLineFeeds, rawLines_append h.1, ih]

theorem exists_logged (t : Text) : ∃ ls, Logged t ls := by
  induction t using induction_on_lines with
  | @last t h =>
    by_cases hne : t = []
    · subst hne
      exact ⟨[], .none⟩
    · exact ⟨[t], .last h hne⟩
  | ended hline hend ih =>
    obtain ⟨ls, hls⟩ := ih
    exact ⟨_, .ended hline hend hls⟩

theorem logged_iff : Logged t ls ↔ Text.rawLines (withLineFeeds t) = ls := by
  refine ⟨Logged.rawLines, ?_⟩
  rintro rfl
  obtain ⟨ls, hls⟩ := exists_logged t
  rwa [hls.rawLines]

theorem Logged.ends (h : Logged t ls) : ∀ line ∈ ls.dropLast, ∃ body, line = body ++ ['\n'] := by
  induction h with
  | none => exact nofun
  | last _ _ => exact nofun
  | @ended line _ _ ls _ _ _ ih =>
    intro other hother
    cases ls with
    | nil => cases hother
    | cons next ls =>
      rw [List.dropLast_cons_cons] at hother
      rcases List.mem_cons.mp hother with rfl | hother
      · exact ⟨line, rfl⟩
      · exact ih other hother

/-! ## Tails -/

theorem tail_of_pos (hn : 0 < n) (bytes : Bytes) :
    tail (some bytes) n = (lines bytes).drop ((lines bytes).length - n) := by
  show lastItems n (lines bytes) = _
  rw [lastItems, if_pos (by omega), Int.toNat_natCast]

theorem tail_zero (bytes : Bytes) : tail (some bytes) 0 = lines bytes := rfl

theorem tail_suffix (bytes : Bytes) (n : Nat) : tail (some bytes) n <:+ lines bytes := by
  rcases Nat.eq_zero_or_pos n with rfl | hn
  · exact List.suffix_refl _
  · rw [tail_of_pos hn]
    exact List.drop_suffix _ _

theorem tail_suffix_tail (hm : 0 < m) (h : m ≤ n) (bytes : Bytes) :
    tail (some bytes) m <:+ tail (some bytes) n := by
  rw [tail_of_pos hm, tail_of_pos (Nat.lt_of_lt_of_le hm h)]
  exact List.drop_suffix_drop_left _ (Nat.sub_le_sub_left h _)

/-- **The tail of a log is the end of its lines**, as many as are asked for and there, in order; put
together, the end of its text, in which every line but the last ends; and asking for more lines puts
lines in front. All this is for at least one line: asking for no lines gives all of them. -/
theorem tail_of_log (bytes : Bytes) :
    ∃ t ls, (∀ u, Utf8.Skimmed bytes u ↔ u = t) ∧ (∀ ks, Logged t ks ↔ ks = ls) ∧
      (∀ n : Nat, 0 < n → ∃ hidden, ls = hidden ++ tail (some bytes) n ∧
        (tail (some bytes) n).length = min n ls.length) ∧
      (∀ n : Nat, (tail (some bytes) n).flatten <:+ withLineFeeds t) ∧
      (∀ n : Nat, ∀ line ∈ (tail (some bytes) n).dropLast, ∃ body, line = body ++ ['\n']) ∧
      (∀ m n : Nat, 0 < m → m ≤ n → tail (some bytes) m <:+ tail (some bytes) n) ∧
      tail (some bytes) 0 = ls := by
  refine ⟨Utf8.decodeSkipping bytes, lines bytes, fun u => Utf8.skimmed_iff.trans eq_comm,
    fun ks => logged_iff.trans eq_comm, ?_, ?_, ?_, fun m n hm h => tail_suffix_tail hm h bytes,
    tail_zero bytes⟩
  · intro n hn
    obtain ⟨hidden, hlines⟩ := tail_suffix bytes n
    refine ⟨hidden, hlines.symm, ?_⟩
    rw [tail_of_pos hn, List.length_drop]
    omega
  · intro n
    obtain ⟨hidden, hlines⟩ := tail_suffix bytes n
    refine ⟨hidden.flatten, ?_⟩
    rw [← List.flatten_append, hlines]
    exact flatten_rawLines _
  · intro n line hline
    have hlogged : Logged (Utf8.decodeSkipping bytes) (lines bytes) := logged_iff.mpr rfl
    obtain ⟨hidden, hlines⟩ := tail_suffix bytes n
    refine hlogged.ends line ?_
    have hne : tail (some bytes) n ≠ [] := by
      rintro hnil
      rw [hnil] at hline
      cases hline
    rw [← hlines, List.dropLast_append_of_ne_nil hne]
    exact List.mem_append_right _ hline

/-- Two lines with stray bytes, of which the last one breaks off. -/
def strayBytes : Bytes := [0x61, 0xFF, 0x0D, 0x0A, 0xC3, 0x28, 0x0A, 0xE2, 0x82]

/-- The last line is one of two, and no lines are both. -/
theorem tail_of_log_strayBytes :
    (∃ hidden, ["a\n".toList, "(\n".toList] = hidden ++ tail (some strayBytes) 1 ∧
      (tail (some strayBytes) 1).length = 1) ∧
    tail (some strayBytes) 1 <:+ tail (some strayBytes) 2 ∧
    tail (some strayBytes) 0 = ["a\n".toList, "(\n".toList] := by
  have hall : tail (some strayBytes) 0 = ["a\n".toList, "(\n".toList] := by decide +kernel
  obtain ⟨t, ls, -, -, hlast, -, -, hmore, hzero⟩ := tail_of_log strayBytes
  rw [hall] at hzero
  subst hzero
  exact ⟨hlast 1 (by decide), hmore 1 2 (by decide) (by decide), hall⟩

end LinkHarvest.Log
