import LinkHarvest.Files.Tree
import LinkHarvest.Proofs.Fallible
import LinkHarvest.Proofs.Files.Path

/-!
# Paths in a tree that grows

A path leads to a place as long as the directories on its way are there. Making directories and
writing files leave every directory what it is, so what a path leads to once, it leads to ever after
(`Grown.locate`); and making directories leaves everything that is there (`Extends`), with the
directories that were asked for (`ensureDirectories_isDirectory`).
-/

namespace LinkHarvest.Files

open Fallible

/-- Every directory stays one. -/
structure Grown (files files' : Files) : Prop where
  home : files'.home = files.home
  directory : ∀ place, files.at? place = some .directory → files'.at? place = some .directory

/-- Everything that is there stays. -/
structure Extends (files files' : Files) : Prop where
  home : files'.home = files.home
  entry : ∀ place entry, files.at? place = some entry → files'.at? place = some entry

variable {files files' files'' : Files} {place : List Text} {entry : FileEntry} {p : FilePath}

theorem Extends.grown (h : Extends files files') : Grown files files' :=
  ⟨h.home, fun place hplace => h.entry place .directory hplace⟩

theorem Extends.refl (files : Files) : Extends files files := ⟨rfl, fun _ _ h => h⟩

theorem Extends.trans (h : Extends files files') (h' : Extends files' files'') :
    Extends files files'' :=
  ⟨h'.home.trans h.home, fun place entry hplace => h'.entry place entry (h.entry place entry hplace)⟩

/-! ## Putting -/

theorem find?_put (entries : List (List Text × FileEntry)) {other : List Text}
    (h : other ≠ place) :
    (entries.filter fun e => e.1 ≠ place).find? (fun e => e.1 = other) =
      entries.find? fun e => e.1 = other := by
  rw [List.find?_filter]
  congr 1
  funext e
  by_cases heq : e.1 = other
  · simp [heq, h]
  · simp [heq]

@[simp] theorem at?_put_self : (files.put place entry).at? place = some entry := by
  simp [at?, put]

theorem at?_put_of_ne {other : List Text} (h : other ≠ place) :
    (files.put place entry).at? other = files.at? other := by
  have hne : place ≠ other := Ne.symm h
  unfold at? put
  dsimp only
  rw [List.find?_cons_of_neg (by simpa using hne), find?_put files.entries h]

theorem grown_put (h : files.at? place ≠ some .directory) :
    Grown files (files.put place entry) := by
  refine ⟨rfl, ?_⟩
  intro other hother
  have hne : other ≠ place := by
    rintro rfl
    exact h hother
  rw [at?_put_of_ne hne]
  exact hother

theorem extends_put (h : files.at? place = none) : Extends files (files.put place entry) := by
  refine ⟨rfl, ?_⟩
  intro other found hother
  have hne : other ≠ place := by
    rintro rfl
    rw [h] at hother
    cases hother
  rw [at?_put_of_ne hne]
  exact hother

/-! ## Where paths lead -/

theorem Grown.enter (h : Grown files files') {name : Text} {next : List Text}
    (henter : files.enter place name = .ok next) : files'.enter place name = .ok next := by
  unfold Files.enter at henter ⊢
  cases hplace : files.at? place with
  | none =>
    rw [hplace] at henter
    cases henter
  | some entry =>
    rw [hplace] at henter
    cases entry with
    | directory =>
      rw [h.directory place hplace]
      exact henter
    | file content => cases henter
    | database d => cases henter

theorem Grown.foldlM_enter (h : Grown files files') (names : List Text) {last : List Text}
    (hnames : names.foldlM files.enter place = .ok last) :
    names.foldlM files'.enter place = .ok last := by
  induction names generalizing place with
  | nil => exact hnames
  | cons name names ih =>
    rw [List.foldlM_cons] at hnames ⊢
    obtain ⟨next, hnext, hnames⟩ := bind_eq_ok.mp hnames
    rw [h.enter hnext, ok_bind]
    exact ih hnames

/-- **A path leads where it led**, as long as directories stay. -/
theorem Grown.locate (h : Grown files files') (hplace : files.locate p = .ok place) :
    files'.locate p = .ok place := by
  unfold Files.locate at hplace ⊢
  split at hplace
  · cases hplace
  · split at hplace
    · cases hplace
    · rename_i hnull hlength
      rw [if_neg hnull, if_neg hlength, h.home]
      exact h.foldlM_enter p.names hplace

theorem find_of_locate (hplace : files.locate p = .ok place)
    (hentry : files.at? place = some entry) : files.find p = .ok entry := by
  unfold find
  rw [hplace]
  dsimp only
  rw [hentry]

theorem find_eq_ok (h : files.find p = .ok entry) :
    ∃ place, files.locate p = .ok place ∧ files.at? place = some entry := by
  unfold find at h
  cases hplace : files.locate p with
  | error fault =>
    rw [hplace] at h
    cases h
  | ok place =>
    rw [hplace] at h
    dsimp only at h
    cases hentry : files.at? place with
    | none =>
      rw [hentry] at h
      cases h
    | some found =>
      rw [hentry] at h
      cases h
      exact ⟨place, rfl, hentry⟩

theorem isDirectory_iff :
    files.isDirectory p = true ↔
      ∃ place, files.locate p = .ok place ∧ files.at? place = some .directory := by
  constructor
  · intro h
    unfold isDirectory at h
    split at h
    · rename_i hfind
      exact find_eq_ok hfind
    · cases h
  · rintro ⟨place, hplace, hentry⟩
    rw [isDirectory, find_of_locate hplace hentry]

theorem Grown.isDirectory (h : Grown files files') (hdirectory : files.isDirectory p = true) :
    files'.isDirectory p = true := by
  obtain ⟨place, hplace, hentry⟩ := isDirectory_iff.mp hdirectory
  exact isDirectory_iff.mpr ⟨place, h.locate hplace, h.directory place hentry⟩

/-! ## Faults -/

theorem foldlM_enter_ne_null {names : List Text} {fault : FileFault}
    (h : names.foldlM files.enter place = .error fault) : fault ≠ .nullCharacter := by
  induction names generalizing place with
  | nil => cases h
  | cons name names ih =>
    rw [List.foldlM_cons] at h
    rcases bind_eq_error.mp h with henter | ⟨next, -, hrest⟩
    · unfold enter at henter
      split at henter
      · cases henter
        decide
      · split at henter <;> cases henter
        decide
      · cases henter
        decide
    · exact ih hrest

theorem locate_eq_null {fault : FileFault} (h : files.locate p = .error fault) :
    fault = .nullCharacter ↔ '\x00' ∈ p.text := by
  unfold Files.locate at h
  split at h
  · rename_i hnull
    cases h
    simpa using hnull
  · rename_i hnull
    have hnull : '\x00' ∉ p.text := by simpa using hnull
    refine iff_of_false ?_ hnull
    split at h
    · cases h
      decide
    · exact foldlM_enter_ne_null h

theorem null_not_mem_of_locate (h : files.locate p = .ok place) : '\x00' ∉ p.text := by
  unfold Files.locate at h
  split at h
  · cases h
  · rename_i hnull
    simpa using hnull

/-- What a file cannot be read for is a null character in its path, just when there is one. -/
theorem read_eq_null {problem : FileProblem} (h : files.read p = .error problem) :
    problem.fault = .nullCharacter ↔ '\x00' ∈ p.text := by
  unfold read find at h
  cases hplace : files.locate p with
  | error fault =>
    rw [hplace] at h
    cases h
    exact locate_eq_null hplace
  | ok place =>
    rw [hplace] at h
    dsimp only at h
    refine iff_of_false ?_ (null_not_mem_of_locate hplace)
    cases hentry : files.at? place with
    | none =>
      rw [hentry] at h
      cases h
      exact nofun
    | some entry =>
      rw [hentry] at h
      cases entry with
      | directory =>
        cases h
        exact nofun
      | file content => cases h
      | database db => cases h

theorem null_not_mem_of_read {content : Bytes} (h : files.read p = .ok content) :
    '\x00' ∉ p.text := by
  unfold read find at h
  cases hplace : files.locate p with
  | error fault =>
    rw [hplace] at h
    cases h
  | ok place => exact null_not_mem_of_locate hplace

/-! ## Making directories -/

theorem makeDirectory_isDirectory (h : files.makeDirectory p = .ok files') :
    files'.isDirectory p = true := by
  unfold makeDirectory at h
  split at h
  · cases h
  · rename_i place hplace
    split at h
    · cases h
    · rename_i hnone
      cases h
      exact isDirectory_iff.mpr
        ⟨place, (extends_put hnone).grown.locate hplace, at?_put_self⟩

theorem ensureDirectory_isDirectory (h : files.ensureDirectory p = .ok files') :
    files'.isDirectory p = true := by
  unfold ensureDirectory at h
  split at h
  · rename_i hmade
    cases h
    exact makeDirectory_isDirectory hmade
  · split at h
    · rename_i hdirectory
      cases h
      exact hdirectory.2
    · cases h

theorem ensureDirectories_isDirectory (h : files.ensureDirectories p = .ok files') :
    files'.isDirectory p = true := by
  obtain ⟨root, names⟩ := p
  unfold ensureDirectories at h
  dsimp only at h
  cases hnames : names.reverse with
  | nil =>
    rw [hnames] at h
    rw [List.reverse_eq_nil_iff.mp hnames]
    exact ensureDirectory_isDirectory h
  | cons name outer =>
    rw [hnames] at h
    rw [← List.reverse_reverse names, hnames]
    unfold ensureNames at h
    dsimp only at h
    split at h
    · rename_i hmade
      cases h
      exact ensureDirectory_isDirectory hmade
    · split at h
      · obtain ⟨made, -, h⟩ := bind_eq_ok.mp h
        exact ensureDirectory_isDirectory h
      · cases h

theorem ensureDirectory_of_isDirectory (h : files.isDirectory p = true) :
    files.ensureDirectory p = .ok files := by
  obtain ⟨place, hplace, hentry⟩ := isDirectory_iff.mp h
  have hmake : files.makeDirectory p = .error ⟨.exists, p⟩ := by
    unfold makeDirectory
    rw [hplace]
    dsimp only
    rw [hentry]
  unfold ensureDirectory
  rw [hmake]
  exact if_pos ⟨nofun, h⟩

theorem ensureDirectories_of_isDirectory (h : files.isDirectory p = true) :
    files.ensureDirectories p = .ok files := by
  obtain ⟨root, names⟩ := p
  unfold ensureDirectories
  dsimp only
  cases hnames : names.reverse with
  | nil =>
    rw [List.reverse_eq_nil_iff.mp hnames] at h
    exact ensureDirectory_of_isDirectory h
  | cons name outer =>
    rw [← List.reverse_reverse names, hnames] at h
    unfold ensureNames
    dsimp only
    rw [ensureDirectory_of_isDirectory h]

theorem makeDirectory_extends (h : files.makeDirectory p = .ok files') :
    Extends files files' := by
  unfold makeDirectory at h
  split at h
  · cases h
  · split at h
    · cases h
    · rename_i hnone
      cases h
      exact extends_put hnone

theorem ensureDirectory_extends (h : files.ensureDirectory p = .ok files') :
    Extends files files' := by
  unfold ensureDirectory at h
  split at h
  · rename_i hmade
    cases h
    exact makeDirectory_extends hmade
  · split at h
    · cases h
      exact .refl files
    · cases h

theorem ensureNames_extends {root : Text} (names : List Text)
    (h : files.ensureNames root names = .ok files') : Extends files files' := by
  induction names generalizing files files' with
  | nil => exact ensureDirectory_extends h
  | cons name outer ih =>
    unfold ensureNames at h
    dsimp only at h
    split at h
    · rename_i hmade
      cases h
      exact ensureDirectory_extends hmade
    · split at h
      · obtain ⟨made, hmade, h⟩ := bind_eq_ok.mp h
        exact (ih hmade).trans (ensureDirectory_extends h)
      · cases h

/-- **Making directories leaves everything that is there.** -/
theorem ensureDirectories_extends (h : files.ensureDirectories p = .ok files') :
    Extends files files' := ensureNames_extends _ h

/-! ## Writing files -/

theorem locate_concat {name : Text} (hplace : files.locate p = .ok place)
    (hdirectory : files.at? place = some .directory) (hshort : (Utf8.encode name).length ≤ 255)
    (hnull : '\x00' ∉ name) (hup : name ≠ ['.', '.']) :
    files.locate ⟨p.root, p.names ++ [name]⟩ = .ok (place ++ [name]) ∨
      files.locate ⟨p.root, p.names ++ [name]⟩ = .error .nameTooLong := by
  have hnone := FilePath.null_not_mem_text_concat (null_not_mem_of_locate hplace) hnull
  have henter : files.enter place name = .ok (place ++ [name]) := by
    unfold enter
    rw [hdirectory]
    dsimp only
    rw [if_neg (by omega), if_neg hup]
  unfold locate at hplace ⊢
  split at hplace
  · cases hplace
  · split at hplace
    · cases hplace
    · rw [if_neg (by simpa using hnone)]
      split
      · exact .inr rfl
      · refine .inl ?_
        have hnames : p.names.foldlM files.enter
            (if FilePath.isAbsolute ⟨p.root, p.names ++ [name]⟩ then [] else files.home) =
              .ok place := hplace
        rw [List.foldlM_append, hnames, ok_bind, List.foldlM_cons, henter]
        rfl

theorem placeForFile_eq_ok (h : files.placeForFile p = .ok place) :
    files.locate p = .ok place ∧ files.at? place ≠ some .directory := by
  unfold placeForFile at h
  cases hplace : files.locate p with
  | error fault =>
    rw [hplace] at h
    cases h
  | ok found =>
    rw [hplace] at h
    dsimp only at h
    split at h
    · cases h
    · rename_i hnot hentry
      cases h
      refine ⟨rfl, ?_⟩
      rw [hentry]
      intro heq
      exact hnot (Option.some.inj heq)
    · rename_i hnone _
      cases h
      refine ⟨rfl, ?_⟩
      rw [hnone]
      exact nofun
    · cases h
    · cases h

theorem placeForFile_of_parent (hplace : files.locate p = .ok place)
    (hfile : files.at? place ≠ some .directory)
    (hparent : files.at? place.dropLast = some .directory) :
    files.placeForFile p = .ok place := by
  unfold placeForFile
  rw [hplace]
  dsimp only
  rw [hparent]
  cases hentry : files.at? place with
  | none => rfl
  | some entry =>
    cases entry with
    | directory => exact absurd hentry hfile
    | file content => rfl
    | database d => rfl

theorem write_eq_ok {content : Bytes} (h : files.write p content = .ok files') :
    ∃ place, files.placeForFile p = .ok place ∧ files' = files.put place (.file content) := by
  obtain ⟨place, hplace, h⟩ := bind_eq_ok.mp h
  cases h
  exact ⟨place, hplace, rfl⟩

/-- **What is written to a file is read from it**, whatever it held before. -/
theorem read_of_write {content : Bytes} (h : files.write p content = .ok files') :
    files'.read p = .ok content := by
  obtain ⟨place, hplace, rfl⟩ := write_eq_ok h
  obtain ⟨hlocate, hfile⟩ := placeForFile_eq_ok hplace
  have hfind : (files.put place (.file content)).find p = .ok (.file content) :=
    find_of_locate ((grown_put hfile).locate hlocate) at?_put_self
  rw [read, hfind]

end LinkHarvest.Files
