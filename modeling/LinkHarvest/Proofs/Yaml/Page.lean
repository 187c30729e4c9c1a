import LinkHarvest.Yaml.Writer
import Mathlib.Data.List.SplitBy
import Mathlib.Data.Nat.Digits.Defs

/-!
# No carriage return is written

A carriage return is none of the characters that a scalar shows as they are: a text that holds one is
written with escapes. So whatever value is written, its page holds no carriage return
(`not_mem_write`), and a file that a document was written to is read with the line ends that it was
written with. Every step of the writer leaves a page `Clear`.
-/

namespace LinkHarvest.Yaml

variable {page : Page} {t run : Text} {u : LooseText} {c : Char}

namespace Page

/-! ## The page -/

/-- No carriage return has been written. -/
def Clear (page : Page) : Prop := '\r' ∉ page.written

theorem clear_empty : empty.Clear := List.not_mem_nil

theorem clear_ite {P : Prop} [Decidable P] {page page' : Page} (h : page.Clear) (h' : page'.Clear) :
    (if P then page else page').Clear := by
  split
  · exact h
  · exact h'

namespace Clear

theorem put (h : page.Clear) (ht : '\r' ∉ t) : (page.put t).Clear := by
  show '\r' ∉ t.reverse ++ page.written
  rw [List.mem_append, List.mem_reverse]
  exact not_or.mpr ⟨ht, h⟩

theorem lineBreak (h : page.Clear) (hc : '\r' ≠ c) : (page.lineBreak c).Clear :=
  List.not_mem_cons_of_ne_of_not_mem hc h

theorem indentTo (h : page.Clear) (column : Nat) : (page.indentTo column).Clear := by
  have hblanks : ∀ n, '\r' ∉ List.replicate n ' ' := fun n hmem =>
    absurd (List.eq_of_mem_replicate hmem) (by decide)
  have hbroken := clear_ite (P := (!page.fresh || column < page.column ||
    (page.column = column && !page.blank)) = true) (h.lineBreak (by decide : '\r' ≠ '\n')) h
  exact clear_ite (hbroken.put (hblanks _)) hbroken

theorem foldTo (h : page.Clear) (column : Nat) : (page.foldTo column).Clear := h.indentTo column

theorem mark (h : page.Clear) (ht : '\r' ∉ t) (apart stays : Bool) :
    (page.mark t apart stays).Clear := by
  have hspaced : '\r' ∉ if apart && !page.blank then ' ' :: t else t := by
    split
    · exact List.not_mem_cons_of_ne_of_not_mem (by decide) ht
    · exact ht
  exact h.put hspaced

/-! ## Scalars without escapes -/

theorem mem_runs (ht : '\r' ∉ t) : ∀ run ∈ runs t, '\r' ∉ run := by
  intro run hrun hmem
  refine ht ?_
  rw [← List.flatten_splitBy (fun a b => (a == ' ', isBreak a) == (b == ' ', isBreak b)) t]
  exact List.mem_flatten.mpr ⟨run, hrun, hmem⟩

theorem putPlain (h : page.Clear) (ht : '\r' ∉ t) (indent : Nat) (fold : Bool) :
    (putPlain indent fold t page).Clear := by
  have hfold : ∀ {rs : List Text} {page : Page}, page.Clear → (∀ run ∈ rs, '\r' ∉ run) →
      (rs.foldl (fun page run =>
        if fold && isFold run page then page.foldTo indent else page.put run) page).Clear := by
    intro rs page h hrs
    induction rs generalizing page with
    | nil => exact h
    | cons run rs ih =>
      obtain ⟨hrun, hrest⟩ := List.forall_mem_cons.mp hrs
      exact ih (clear_ite (h.foldTo indent) (h.put hrun)) hrest
  have hspaced : (if page.blank then page else page.put [' ']).Clear :=
    clear_ite h (h.put (by decide))
  refine clear_ite h (hfold ?_ (mem_runs ht))
  exact hspaced

theorem lineBreaks (h : page.Clear) (hrun : '\r' ∉ run) : (run.foldl Page.lineBreak page).Clear := by
  induction run generalizing page with
  | nil => exact h
  | cons c run ih =>
    obtain ⟨hc, hrest⟩ := List.ne_and_not_mem_of_not_mem_cons hrun
    exact ih (h.lineBreak hc) hrest

theorem putBreaks (h : page.Clear) (hrun : '\r' ∉ run) (indent : Nat) :
    (putBreaks indent run page).Clear :=
  ((clear_ite (h.lineBreak (by decide)) h).lineBreaks hrun).indentTo indent

theorem putRuns {rs : List Text} (h : page.Clear) (hrs : ∀ run ∈ rs, '\r' ∉ run)
    (indent : Nat) (fold first : Bool) : (putRuns indent fold first rs page).Clear := by
  induction rs generalizing page first with
  | nil => exact h
  | cons run rs ih =>
    obtain ⟨hrun, hrest⟩ := List.forall_mem_cons.mp hrs
    have hquoted : '\r' ∉ run.flatMap fun c => if c = '\'' then ['\'', '\''] else [c] := by
      intro hmem
      obtain ⟨c, hc, hquoted⟩ := List.mem_flatMap.mp hmem
      split at hquoted
      · exact absurd hquoted (by decide)
      · exact hrun (List.mem_singleton.mp hquoted ▸ hc)
    exact ih (clear_ite (h.putBreaks hrun indent) (clear_ite (h.indentTo indent) (h.put hquoted)))
      hrest false

theorem putSingle (h : page.Clear) (ht : '\r' ∉ t) (indent : Nat) (fold : Bool) :
    (putSingle indent fold t page).Clear :=
  ((h.mark (by decide) true false).putRuns (mem_runs ht) indent fold true).mark (by decide)
    false false

/-! ## Scalars with escapes -/

theorem not_mem_hex (width n : Nat) : '\r' ∉ (Text.hex width n).map Char.toUpper := by
  have hdigit : ∀ k < 16, (Nat.digitChar k).toUpper ≠ '\r' := by decide
  have hdigits : ∀ n, ∀ c ∈ Nat.toDigits 16 n, c.toUpper ≠ '\r' := by
    intro n
    induction n using Nat.strongRecOn with
    | ind n ih =>
      rw [Nat.toDigits_eq_if (by decide)]
      split
      · rename_i hn
        exact List.forall_mem_singleton.mpr (hdigit n hn)
      · refine List.forall_mem_append.mpr ⟨ih (n / 16) (by omega), ?_⟩
        exact List.forall_mem_singleton.mpr (hdigit (n % 16) (by omega))
  intro hmem
  obtain ⟨c, hc, hupper⟩ := List.mem_map.mp hmem
  rcases List.mem_append.mp hc with hzero | hc
  · rw [List.eq_of_mem_replicate hzero] at hupper
    exact absurd hupper (by decide)
  · exact hdigits n c hc hupper

theorem not_mem_numberedEscape (n : Nat) : '\r' ∉ numberedEscape n := by
  have hmarked : ∀ {mark : Text} (width : Nat), '\r' ∉ mark →
      '\r' ∉ mark ++ (Text.hex width n).map Char.toUpper := fun width hmark hmem =>
    (List.mem_append.mp hmem).elim hmark (not_mem_hex width n)
  unfold numberedEscape
  dsimp only
  split
  · exact hmarked 2 (by decide)
  · split
    · exact hmarked 4 (by decide)
    · exact hmarked 8 (by decide)

theorem not_mem_escapeOf? {p : CodePoint} {e : Text} (h : escapeOf? p = some e) : '\r' ∉ e := by
  unfold escapeOf? at h
  split at h
  · cases h
    exact not_mem_numberedEscape _
  · split at h
    · rename_i letter hletter
      cases h
      unfold escapeLetter? at hletter
      split at hletter <;> cases hletter <;> decide
    · dsimp only at h
      split at h
      · cases h
      · cases h
        exact not_mem_numberedEscape _

theorem ne_of_escapeOf?_eq_none (h : escapeOf? (.char c) = none) : '\r' ≠ c := by
  rintro rfl
  cases h

theorem breakDouble (h : page.Clear) (indent : Nat) (next : Option CodePoint) :
    (breakDouble indent next page).Clear := by
  have hfold := (h.put (by decide : '\r' ∉ ['\\'])).foldTo indent
  exact clear_ite (hfold.put (by decide)) hfold

theorem putDouble {pending : Text} (h : page.Clear) (hpending : '\r' ∉ pending)
    (indent : Nat) (fold first : Bool) (u : LooseText) :
    (putDouble indent fold first pending u page).Clear := by
  induction u generalizing page pending first with
  | nil => exact h.put (mt List.mem_reverse.mp hpending)
  | cons p u ih =>
    have hput := h.put (mt List.mem_reverse.mp hpending)
    unfold Yaml.putDouble
    dsimp only
    split
    · rename_i hescape
      have hescaped := hput.put (not_mem_escapeOf? hescape)
      exact ih (clear_ite (hescaped.breakDouble indent _) hescaped) List.not_mem_nil false
    · rename_i c hnone
      have hc := ne_of_escapeOf?_eq_none hnone
      split
      · exact ih (hput.breakDouble indent _) (List.not_mem_cons_of_ne_of_not_mem hc List.not_mem_nil)
          false
      · exact ih h (List.not_mem_cons_of_ne_of_not_mem hc hpending) false
    · exact ih h hpending false

/-! ## Scalars -/

theorem not_mem_of_all_isShown (h : u.all isShown = true) : '\r' ∉ u.toText := by
  intro hmem
  obtain ⟨p, hp, hchar⟩ := List.mem_map.mp hmem
  have hshown := List.all_eq_true.mp h p hp
  cases p with
  | half code => cases hshown
  | char c =>
    cases hchar
    exact absurd hshown (by decide)

/-- A text that is not written with escapes holds no carriage return. -/
theorem not_mem_of_formFor {tag : Tag} (h : formFor tag u ≠ .double) : '\r' ∉ u.toText := by
  unfold formFor at h
  split at h
  · exact absurd rfl h
  · split at h
    · exact absurd rfl h
    · rename_i hshown
      exact not_mem_of_all_isShown (by simpa using hshown)

theorem putScalar (h : page.Clear) (tag : Tag) (indent : Nat) (fold : Bool) (u : LooseText) :
    (putScalar tag indent fold u page).Clear := by
  unfold Yaml.putScalar
  split
  · rename_i hform
    exact h.putPlain (not_mem_of_formFor (by rw [hform]; exact nofun)) indent fold
  · rename_i hform
    exact h.putSingle (not_mem_of_formFor (by rw [hform]; exact nofun)) indent fold
  · exact ((h.mark (by decide) true false).putDouble List.not_mem_nil indent fold true u).mark
      (by decide) false false

/-! ## Values -/

theorem putEmpty {opening closing : Char} (h : page.Clear) (hopening : '\r' ≠ opening)
    (hclosing : '\r' ≠ closing) : (putEmpty opening closing page).Clear :=
  (h.mark (List.not_mem_cons_of_ne_of_not_mem hopening List.not_mem_nil) true false).mark
    (List.not_mem_cons_of_ne_of_not_mem hclosing List.not_mem_nil) false false

mutual

theorem putValue (outer : Option Nat) (inEntry : Bool) (v : Value) {page : Page} (h : page.Clear) :
    (putValue outer inEntry v page).Clear := by
  unfold Yaml.putValue
  split
  · exact clear_ite (h.putEmpty (by decide) (by decide)) (putEach _ _ h)
  · exact clear_ite (h.putEmpty (by decide) (by decide)) (putEach _ _ h)
  · exact clear_ite (h.putEmpty (by decide) (by decide)) (putEach _ _ h)
  · exact clear_ite (h.putEmpty (by decide) (by decide)) (putEntries _ _ h)
  · split
    · exact h.putScalar _ _ true _
    · exact h

theorem putEach (column : Nat) (items : List Value) {page : Page} (h : page.Clear) :
    (putEach column items page).Clear := by
  cases items with
  | nil => exact h
  | cons v rest =>
    exact putEach column rest
      (putValue (some column) false v ((h.indentTo column).mark (by decide) true true))

theorem putEntries (column : Nat) (entries : List (Value × Value)) {page : Page} (h : page.Clear) :
    (putEntries column entries page).Clear := by
  cases entries with
  | nil => exact h
  | cons e rest =>
    obtain ⟨k, v⟩ := e
    have hline := h.indentTo column
    have hkey : (if isShortKey k = true then
        match scalarOf? k with
        | some (tag, t) =>
          (Yaml.putScalar tag (column + 2) false t (page.indentTo column)).mark [':'] false false
        | none => page.indentTo column
      else
        ((Yaml.putValue (some column) true k ((page.indentTo column).mark ['?'] true true)).indentTo
          column).mark [':'] true true).Clear := by
      split
      · split
        · exact (hline.putScalar _ _ false _).mark (by decide) false false
        · exact hline
      · have hmarked := putValue (some column) true k
          (hline.mark (by decide : '\r' ∉ ['?']) true true)
        exact (hmarked.indentTo column).mark (by decide : '\r' ∉ [':']) true true
    exact putEntries column rest (putValue (some column) true v hkey)

end

end Clear

end Page

/-- **A document is written without carriage returns.** -/
theorem not_mem_write (v : Value) : '\r' ∉ write v := by
  have hpage := (Page.clear_empty.putValue none false v).indentTo 0
  have hend : '\r' ∉ if endsOpen v then "...\n".toList else [] := by
    split <;> decide
  exact fun hmem => (List.mem_append.mp hmem).elim (mt List.mem_reverse.mp hpage) hend

end LinkHarvest.Yaml
