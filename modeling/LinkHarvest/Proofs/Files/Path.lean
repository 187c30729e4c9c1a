import LinkHarvest.Files.Path
import LinkHarvest.Proofs.Text.Cut

/-!
# Paths as text

Reading a path leaves out the names that do not count and all but one or two of the slashes at its
start (`normal_ofText`). A path in this form is read back from its text (`ofText_text`), so writing
a path and reading it again changes nothing.
-/

namespace LinkHarvest.FilePath

variable {p : FilePath} {t root : Text} {names : List Text}

/-- A path as it is read from a text. -/
structure Normal (p : FilePath) : Prop where
  root : p.root = [] ∨ p.root = ['/'] ∨ p.root = ['/', '/']
  names : ∀ name ∈ p.names, name ≠ [] ∧ name ≠ ['.'] ∧ '/' ∉ name

theorem normal_ofText (t : Text) : (ofText t).Normal where
  root := by
    unfold ofText
    dsimp only
    split
    · exact .inl rfl
    · split
      · exact .inr (.inr rfl)
      · exact .inr (.inl rfl)
  names := by
    intro name hname
    obtain ⟨hpiece, hcounts⟩ := List.mem_filter.mp hname
    simp only [Bool.and_eq_true, Bool.not_eq_eq_eq_not, Bool.not_true, List.isEmpty_eq_false_iff,
      bne_iff_ne] at hcounts
    exact ⟨hcounts.1, hcounts.2, (Text.mem_split hpiece).2⟩

/-! ## Names -/

theorem namesOf_cons (t : Text) : namesOf ('/' :: t) = namesOf t := by
  have hsplit : Text.split '/' ('/' :: t) = [] :: Text.split '/' t :=
    Text.split_append_cons (List.not_mem_nil) t
  unfold namesOf
  rw [hsplit]
  rfl

theorem namesOf_joined (h : ∀ name ∈ names, name ≠ [] ∧ name ≠ ['.'] ∧ '/' ∉ name) :
    namesOf (Text.joined ['/'] names) = names := by
  by_cases hne : names = []
  · subst hne
    rfl
  unfold namesOf
  rw [Text.split_joined hne fun name hname => (h name hname).2.2]
  refine List.filter_eq_self.mpr fun name hname => ?_
  obtain ⟨hempty, hdot, -⟩ := h name hname
  simp [hempty, hdot]

theorem head?_joined (h : ∀ name ∈ names, name ≠ [] ∧ name ≠ ['.'] ∧ '/' ∉ name) :
    (Text.joined ['/'] names).head? ≠ some '/' := by
  cases names with
  | nil => exact nofun
  | cons name names =>
    obtain ⟨hempty, -, hslash⟩ := h name List.mem_cons_self
    have hstart : ∃ rest, Text.joined ['/'] (name :: names) = name ++ rest := by
      cases names with
      | nil => exact ⟨[], by simp [Text.joined]⟩
      | cons other names =>
        exact ⟨_, by rw [Text.joined, List.intercalate_cons_cons, List.append_assoc]⟩
    obtain ⟨rest, hrest⟩ := hstart
    rw [hrest, List.head?_append_of_ne_nil _ hempty]
    exact fun hhead => hslash (List.mem_of_mem_head? hhead)

/-! ## Names at the end -/

theorem mem_joined_concat {c : Char} {name : Text}
    (h : c ∈ Text.joined ['/'] (names ++ [name])) :
    c ∈ Text.joined ['/'] names ∨ c = '/' ∨ c ∈ name := by
  induction names with
  | nil =>
    rw [List.nil_append, Text.joined, List.intercalate_singleton] at h
    exact .inr (.inr h)
  | cons first names ih =>
    cases names with
    | nil =>
      rw [List.singleton_append, Text.joined, List.intercalate_cons_cons,
        List.intercalate_singleton] at h
      rw [Text.joined, List.intercalate_singleton]
      simpa [or_assoc] using h
    | cons second names =>
      rw [List.cons_append, List.cons_append, Text.joined, List.intercalate_cons_cons] at h
      rw [Text.joined, List.intercalate_cons_cons]
      rcases List.mem_append.mp h with hstart | hrest
      · exact .inl (List.mem_append_left _ hstart)
      · exact (ih hrest).imp_left (List.mem_append_right _)

theorem null_mem_text : '\x00' ∈ p.text ↔ '\x00' ∈ p.root ++ Text.joined ['/'] p.names := by
  unfold text
  dsimp only
  split
  · rename_i hempty
    rw [List.isEmpty_iff.mp hempty]
    simp
  · exact Iff.rfl

theorem null_not_mem_text_concat {name : Text} (h : '\x00' ∉ p.text) (hname : '\x00' ∉ name) :
    '\x00' ∉ (⟨p.root, p.names ++ [name]⟩ : FilePath).text := by
  rw [null_mem_text, List.mem_append, not_or] at h ⊢
  refine ⟨h.1, fun hmem => ?_⟩
  rcases mem_joined_concat hmem with hjoined | hslash | hmem
  · exact h.2 hjoined
  · exact absurd hslash (by decide)
  · exact hname hmem

/-! ## Round trip -/

theorem text_ne_nil (p : FilePath) : p.text ≠ [] := by
  unfold text
  dsimp only
  split
  · exact List.cons_ne_nil _ _
  · rename_i h
    simpa using h

theorem takeWhile_of_head? (h : t.head? ≠ some '/') : t.takeWhile (· = '/') = [] := by
  cases t with
  | nil => rfl
  | cons c t => exact List.takeWhile_cons_of_neg (by simpa using h)

/-- **A path is read back from its text.** -/
theorem ofText_text (h : p.Normal) : ofText p.text = p := by
  obtain ⟨root, names⟩ := p
  obtain ⟨hroot, hnames⟩ := h
  dsimp only at hroot hnames
  have hhead := takeWhile_of_head? (head?_joined hnames)
  have hjoined := namesOf_joined hnames
  unfold text
  dsimp only
  split
  · -- the path without root and names is written as a dot
    rename_i hempty
    rw [List.isEmpty_iff, List.append_eq_nil_iff] at hempty
    obtain ⟨rfl, hnil⟩ := hempty
    rw [hnil] at hjoined
    rw [← hjoined]
    rfl
  · rcases hroot with rfl | rfl | rfl <;> unfold ofText
    · rw [List.nil_append, hhead, hjoined]
      rfl
    · rw [List.singleton_append, List.takeWhile_cons_of_pos (by decide), hhead, namesOf_cons,
        hjoined]
      rfl
    · rw [List.cons_append, List.singleton_append, List.takeWhile_cons_of_pos (by decide),
        List.takeWhile_cons_of_pos (by decide), hhead, namesOf_cons, namesOf_cons, hjoined]
      rfl

example : (ofText "//a/./b//".toList).text = "//a/b".toList := by decide

end LinkHarvest.FilePath
