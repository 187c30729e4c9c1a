import LinkHarvest.Proofs.Text.Cut
import LinkHarvest.Proofs.Text.Trim
import LinkHarvest.Text.Lines

/-!
# Lines that are not blank

The lines of a subscription are cut at line feeds and trimmed, and the blank ones are left out.
Texts with a line feed between them are read one after the other (`nonBlankLines_append`), so
everything is settled line by line: what is read makes up a line (`OnLine`), a blank line is read as
nothing (`nonBlankLines_of_blank`), and a line with its end as the line (`OnLine.before_ending`).
Lines can therefore be laid out in many ways, with either line end and with blank lines among them
(`LaidOut`), and are read back from all of these (`LaidOut.nonBlankLines`).
-/

namespace LinkHarvest.Text

variable {t u v line ending : Text} {ls : List Text}

/-! ## Single lines -/

theorem mem_nonBlankLines (h : line ∈ nonBlankLines t) :
    line <:+: t ∧ Tight line ∧ '\n' ∉ line := by
  obtain ⟨hline, -⟩ := List.mem_filter.mp h
  obtain ⟨piece, hpiece, rfl⟩ := List.mem_map.mp hline
  obtain ⟨hpart, hfeed⟩ := mem_split hpiece
  obtain ⟨u, v, -, -, heq⟩ := exists_trim piece
  have htrim : trim piece <:+: piece := ⟨u, v, heq.symm⟩
  exact ⟨htrim.trans hpart, tight_trim piece, fun hmem => hfeed (htrim.subset hmem)⟩

/-- A text that makes up a line: it is not empty, not blank at its ends, and has no line feed. -/
structure OnLine (t : Text) : Prop where
  filled : t ≠ []
  tight : Tight t
  unbroken : '\n' ∉ t

theorem onLine_of_mem (h : line ∈ nonBlankLines t) : OnLine line := by
  obtain ⟨-, htight, hfeed⟩ := mem_nonBlankLines h
  have hfilled : line ≠ [] := by
    rintro rfl
    cases (List.mem_filter.mp h).2
  exact ⟨hfilled, htight, hfeed⟩

theorem nonBlankLines_of_blank (h : ∀ c ∈ u, isBlank c = true) : nonBlankLines u = [] := by
  refine List.filter_eq_nil_iff.mpr (List.forall_mem_map.mpr fun piece hpiece => ?_)
  have htrim : trim piece = [] := trim_of_blank fun c hc => h c ((mem_split hpiece).1.subset hc)
  simp [htrim]

theorem OnLine.nonBlankLines_padded (h : OnLine line) (hv : ∀ c ∈ v, isBlank c = true)
    (hfeed : '\n' ∉ v) : nonBlankLines (line ++ v) = [line] := by
  have hunbroken : '\n' ∉ line ++ v := by simp [h.unbroken, hfeed]
  unfold nonBlankLines
  rw [split_of_not_mem hunbroken, List.map_singleton, trim_append_of_blank hv,
    trim_of_tight h.tight, List.filter_cons_of_pos (by simp [h.filled])]
  rfl

/-! ## Lines behind one another -/

theorem nonBlankLines_append (t u : Text) :
    nonBlankLines (t ++ '\n' :: u) = nonBlankLines t ++ nonBlankLines u := by
  unfold nonBlankLines
  rw [split_append, List.map_append, List.filter_append]

def lineEnds : List Text := [['\n'], ['\r', '\n']]

theorem exists_of_mem_lineEnds (h : ending ∈ lineEnds) :
    ∃ v, ending = v ++ ['\n'] ∧ (∀ c ∈ v, isBlank c = true) ∧ '\n' ∉ v := by
  have hall : ∀ ending ∈ lineEnds, ending = ending.dropLast ++ ['\n'] ∧
      ending.dropLast.all isBlank = true ∧ '\n' ∉ ending.dropLast := by decide
  obtain ⟨hends, hblank, hfeed⟩ := hall ending h
  exact ⟨_, hends, List.all_eq_true.mp hblank, hfeed⟩

theorem nonBlankLines_append_ending (hend : ending ∈ lineEnds) (t u : Text) :
    ∃ v, (∀ c ∈ v, isBlank c = true) ∧ '\n' ∉ v ∧
      nonBlankLines (t ++ ending ++ u) = nonBlankLines (t ++ v) ++ nonBlankLines u := by
  obtain ⟨v, rfl, hv, hfeed⟩ := exists_of_mem_lineEnds hend
  refine ⟨v, hv, hfeed, ?_⟩
  rw [← nonBlankLines_append]
  simp

theorem OnLine.before_ending (h : OnLine line) (hend : ending ∈ lineEnds) (t : Text) :
    nonBlankLines (line ++ ending ++ t) = line :: nonBlankLines t := by
  obtain ⟨v, hv, hfeed, hread⟩ := nonBlankLines_append_ending hend line t
  rw [hread, h.nonBlankLines_padded hv hfeed]
  rfl

theorem OnLine.nonBlankLines_append (h : OnLine line) (t : Text) :
    nonBlankLines (line ++ '\n' :: t) = line :: nonBlankLines t := by
  have hend : ['\n'] ∈ lineEnds := by decide
  have hread := h.before_ending hend t
  rwa [List.append_assoc] at hread

theorem nonBlankLines_blank_ending (hu : ∀ c ∈ u, isBlank c = true) (hend : ending ∈ lineEnds)
    (t : Text) : nonBlankLines (u ++ ending ++ t) = nonBlankLines t := by
  obtain ⟨v, hv, -, hread⟩ := nonBlankLines_append_ending hend u t
  rw [hread, nonBlankLines_of_blank (List.forall_mem_append.mpr ⟨hu, hv⟩)]
  rfl

/-! ## Layouts -/

/-- Lines one below the other, each with its end, and blank lines anywhere among them. The last
line, blank or not, may lack its end. -/
inductive LaidOut : List Text → Text → Prop
  | blank {u : Text} (hu : ∀ c ∈ u, isBlank c = true) : LaidOut [] u
  | last (line : Text) : LaidOut [line] line
  | ended {line ending t : Text} {ls : List Text} (hend : ending ∈ lineEnds)
      (rest : LaidOut ls t) : LaidOut (line :: ls) (line ++ ending ++ t)
  | blankEnded {u ending t : Text} {ls : List Text} (hu : ∀ c ∈ u, isBlank c = true)
      (hend : ending ∈ lineEnds) (rest : LaidOut ls t) : LaidOut ls (u ++ ending ++ t)

theorem laidOut_joined (hend : ending ∈ lineEnds) (ls : List Text) :
    LaidOut ls (joined ending ls) := by
  induction ls with
  | nil => exact .blank (List.forall_mem_nil _)
  | cons line ls ih =>
    cases ls with
    | nil =>
      rw [joined, List.intercalate_singleton]
      exact .last line
    | cons next ls =>
      rw [joined, List.intercalate_cons_cons]
      exact .ended hend ih

/-- **Lines are read back from every layout.** -/
theorem LaidOut.nonBlankLines (h : LaidOut ls t) (hls : ∀ line ∈ ls, OnLine line) :
    nonBlankLines t = ls := by
  induction h with
  | blank hu => exact nonBlankLines_of_blank hu
  | last line =>
    have hread := (hls line List.mem_cons_self).nonBlankLines_padded
      (List.forall_mem_nil _) List.not_mem_nil
    rwa [List.append_nil] at hread
  | ended hend _ ih =>
    obtain ⟨hline, hrest⟩ := List.forall_mem_cons.mp hls
    rw [hline.before_ending hend, ih hrest]
  | blankEnded hu hend _ ih => rw [nonBlankLines_blank_ending hu hend, ih hls]

/-! ## What is kept -/

theorem filter_nonBlankLines (t : Text) :
    (nonBlankLines t).flatten.filter (fun c => !isBlank c) = t.filter fun c => !isBlank c := by
  have hfeed (c : Char) (hc : isBlank c = false) : c ≠ '\n' := by
    rintro rfl
    cases hc
  calc (nonBlankLines t).flatten.filter (fun c => !isBlank c)
      = ((split '\n' t).map trim).flatten.filter fun c => !isBlank c := by
        rw [nonBlankLines, List.flatten_filter_not_isEmpty]
    _ = (split '\n' t).flatten.filter fun c => !isBlank c := by
        rw [List.filter_flatten, List.filter_flatten, List.map_map]
        exact congrArg List.flatten (List.map_congr_left fun piece _ => filter_trim piece)
    _ = t.filter fun c => !isBlank c := by
        rw [flatten_split, List.filter_filter]
        refine List.filter_congr fun c _ => ?_
        cases hc : isBlank c with
        | true => rfl
        | false => simp [hfeed c hc]

/-- **Reading lines loses blanks only.** It goes line by line; what is read makes up lines; these are
read again however they are laid out; and together they hold every character that is not blank. -/
theorem nonBlankLines_lossless (t : Text) :
    (∀ u, nonBlankLines (t ++ '\n' :: u) = nonBlankLines t ++ nonBlankLines u) ∧
      (∀ line ∈ nonBlankLines t, line ≠ [] ∧ trim line = line ∧ '\n' ∉ line) ∧
      (∀ ending ∈ lineEnds, nonBlankLines (joined ending (nonBlankLines t)) = nonBlankLines t) ∧
      (∀ u, LaidOut (nonBlankLines t) u → nonBlankLines u = nonBlankLines t) ∧
      (nonBlankLines t).flatten.filter (fun c => !isBlank c) = t.filter fun c => !isBlank c := by
  have hlines : ∀ line ∈ nonBlankLines t, OnLine line := fun _ => onLine_of_mem
  refine ⟨nonBlankLines_append t, ?_, ?_, fun u h => h.nonBlankLines hlines,
    filter_nonBlankLines t⟩
  · intro line hline
    obtain ⟨hfilled, htight, hfeed⟩ := hlines line hline
    exact ⟨hfilled, trim_of_tight htight, hfeed⟩
  · exact fun ending hend => (laidOut_joined hend _).nonBlankLines hlines

/-- Two links, indented by blanks of several scripts, with a carriage return inside one of them. -/
def indentedLinks : Text := "\u3000a b\u00a0\r\n\t\n\x0b\u2003c\rd \n\u2028"

/-- The same links with either line end, and with blank lines before, between and behind them. -/
def spacedLinks : Text :=
  ['\u2029'] ++ ['\r', '\n'] ++ ("a b".toList ++ ['\r', '\n'] ++
    ([' '] ++ ['\n'] ++ ("c\rd".toList ++ ['\n'] ++ ['\n', '\x1c'])))

/-- What is read of the former is read again of the latter. -/
theorem nonBlankLines_spacedLinks :
    nonBlankLines indentedLinks = ["a b".toList, "c\rd".toList] ∧
      LaidOut (nonBlankLines indentedLinks) spacedLinks ∧
      nonBlankLines spacedLinks = ["a b".toList, "c\rd".toList] ∧
      trim "c\rd" = "c\rd".toList := by
  have hlines : nonBlankLines indentedLinks = ["a b".toList, "c\rd".toList] := by decide
  have hfeed : ['\n'] ∈ lineEnds := by decide
  have hreturn : ['\r', '\n'] ∈ lineEnds := by decide
  have hlaid : LaidOut (nonBlankLines indentedLinks) spacedLinks := by
    rw [hlines]
    exact .blankEnded (List.all_eq_true.mp rfl) hreturn (.ended hreturn
      (.blankEnded (List.all_eq_true.mp rfl) hfeed
        (.ended hfeed (.blank (List.all_eq_true.mp rfl)))))
  have hmem : "c\rd".toList ∈ nonBlankLines indentedLinks := by
    rw [hlines]
    decide
  obtain ⟨-, htidy, -, hread, -⟩ := nonBlankLines_lossless indentedLinks
  exact ⟨hlines, hlaid, (hread _ hlaid).trans hlines, (htidy _ hmem).2.1⟩

end LinkHarvest.Text
