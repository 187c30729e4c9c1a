import LinkHarvest.Command.Program
import LinkHarvest.Proofs.Files.Tree

/-!
# An open project

A project that is open has its database among its files, at the place that its configuration names
(`openDesk_database`). The database stays there while links are exported to another file, and a call
that ends files the tables as they are then (`filed_database`).
-/

namespace LinkHarvest

open Fallible Files

variable {files files' : Files} {p path : FilePath} {place : List Text} {db db' : Database}
  {links : List Text}

/-! ## Databases in files -/

theorem find_put_database (hplace : files.locate p = .ok place)
    (hfile : files.at? place ≠ some .directory) :
    (files.put place (.database db)).find p = .ok (.database db) :=
  find_of_locate ((grown_put hfile).locate hplace) at?_put_self

theorem databaseAt_find (h : Store.databaseAt files p = .ok (db, files')) :
    files'.find p = .ok (.database db) := by
  unfold Store.databaseAt at h
  split at h
  · cases h
  · rename_i place hplace
    obtain ⟨hlocate, hfile⟩ := placeForFile_eq_ok hplace
    split at h
    · rename_i hentry
      cases h
      exact find_of_locate hlocate hentry
    · split at h
      · cases h
        exact find_put_database hlocate hfile
      · cases h
    · cases h
      exact find_put_database hlocate hfile

theorem openAt_find {store : Store} (hpath : p.isAbsolute = true)
    (h : Store.openAt files p = (.ok store, files')) :
    files'.find p = .ok (.database store.database) := by
  have hmemory : p ≠ Store.inMemory := by
    rintro rfl
    cases hpath
  unfold Store.openAt at h
  split at h
  · cases h
  · rw [if_neg hmemory] at h
    split at h
    · cases h
    · rename_i hdatabase
      cases h
      exact databaseAt_find hdatabase

/-! ## Exports -/

/-- An export to a path leaves what another path leads to, once the directory of the file is made.
-/
def Apart (files : Files) (path p : FilePath) : Prop :=
  ∀ made, Run.ensureParent files path = .ok made → made.locate path ≠ made.locate p

instance (files : Files) (path p : FilePath) : Decidable (Apart files path p) :=
  match h : Run.ensureParent files path with
  | .ok made =>
    decidable_of_iff (made.locate path ≠ made.locate p)
      ⟨fun hne _ h' => Except.ok.inj (h.symm.trans h') ▸ hne, fun hapart => hapart made h⟩
  | .error _ => isTrue fun _ h' => nomatch h.symm.trans h'

theorem ensureParent_extends (h : Run.ensureParent files path = .ok files') :
    Extends files files' := by
  unfold Run.ensureParent at h
  obtain ⟨found, -, h⟩ := bind_eq_ok.mp h
  split at h
  · cases h
    exact .refl files
  · exact ensureDirectories_extends h

theorem exportLinks_find (hapart : Apart files path p)
    (hfind : files.find p = .ok (.database db))
    (h : Run.exportLinks files path links = .ok files') :
    files'.find p = .ok (.database db) := by
  obtain ⟨place, hlocate, hentry⟩ := find_eq_ok hfind
  unfold Run.exportLinks at h
  split at h
  · cases h
  · rename_i made hmade
    have hextends : Extends files made := ensureParent_extends hmade
    have hlocate' : made.locate p = .ok place := hextends.grown.locate hlocate
    have hentry' : made.at? place = some (.database db) := hextends.entry place _ hentry
    obtain ⟨target, htarget, rfl⟩ := write_eq_ok (mapError_eq_ok.mp h)
    obtain ⟨htargetPath, htargetFile⟩ := placeForFile_eq_ok htarget
    have hne : place ≠ target := by
      rintro rfl
      exact hapart made hmade (htargetPath.trans hlocate'.symm)
    apply find_of_locate ((grown_put htargetFile).locate hlocate')
    rw [at?_put_of_ne hne]
    exact hentry'

/-! ## Desks -/

namespace Command

variable {env : Environment} {d : Desk} {verbose : Bool}

theorem databaseAt_isAbsolute (config : Options.GlobalConfig) (root : FilePath) :
    (config.databaseAt root).isAbsolute = true := by
  unfold Options.GlobalConfig.databaseAt
  split
  · assumption
  · rfl

theorem openDatabase_eq_ok {config : Options.GlobalConfig} {project : Project}
    (h : openDatabase env verbose config project files = .ok d) :
    d.files.find d.place = .ok (.database d.store.database) := by
  unfold openDatabase at h
  dsimp only at h
  split at h
  · cases h
  · rename_i hopened
    cases h
    have hfind := openAt_find (databaseAt_isAbsolute config project.root) hopened
    exact hfind

/-- **An open project has its database among its files.** -/
theorem openDesk_database (h : openDesk env verbose = .ok d) :
    d.files.find d.place = .ok (.database d.store.database) := by
  unfold openDesk at h
  dsimp only at h
  split at h
  · cases h
  · split at h
    · cases h
    · split at h
      · cases h
      · exact openDatabase_eq_ok h

/-- **A call that ends files the tables of its store**, unless the database was written over. -/
theorem filed_database {store : Store} (h : files.find d.place = .ok (.database db)) :
    (d.filed store files).find d.place = .ok (.database store.database) := by
  obtain ⟨place, hlocate, hentry⟩ := find_eq_ok h
  have hfile : files.at? place ≠ some .directory := by
    rw [hentry]
    exact nofun
  unfold Desk.filed
  rw [hlocate]
  dsimp only
  rw [hentry]
  exact find_put_database hlocate hfile

end Command

end LinkHarvest
