import LinkHarvest.Proofs.Files.Tree
import LinkHarvest.Proofs.Options.Settled
import LinkHarvest.Proofs.Project.Configuration
import LinkHarvest.Proofs.Text.Lines
import LinkHarvest.Proofs.Text.Utf8
import LinkHarvest.Proofs.Yaml.Page
import Mathlib.Logic.Function.Basic

/-!
# What was saved is loaded

A configuration that is accepted is read back from its own document, so a project that saves one
loads it, from memory and from the file. Several sessions on one directory share the file, and each
keeps what it has read; whatever they do, a session that is opened anew loads what was saved last
(`load_saved`).

What a run of events keeps is `Kept`: the directories are there, the path of the configuration leads
to a place below them, and the file at this place, if any, holds what was saved last.
-/

namespace LinkHarvest.Project

open Fallible Options Files

variable {p q : Project} {files files' : Files} {path directory : FilePath} {place : List Text}
  {c : GlobalConfig} {values : List (Value × Value)}

/-! ## One file -/

/-- The document of a configuration is read as it was written. -/
def ReadsBack (c : GlobalConfig) : Prop :=
  Yaml.read (Yaml.write (.map c.entries)) = .ok (.map c.entries)

/-- The file that a configuration is saved to. -/
def fileOf (c : GlobalConfig) : FileEntry := .file (Utf8.encode (Yaml.write (.map c.entries)))

theorem document_fileOf (h : ReadsBack c) :
    document (Utf8.encode (Yaml.write (.map c.entries))) = .ok (.map c.entries) := by
  unfold document documentOf
  rw [Utf8.decode_encode, mapError_ok, ok_bind,
    Text.withLineFeeds_of_not_mem (Yaml.not_mem_write _)]
  dsimp only
  rw [h]
  rfl

theorem load_of_fileOf (hunread : p.config = none) (hsettled : c.Settled) (hreads : ReadsBack c)
    (hfind : files.find p.configPath = .ok (fileOf c)) :
    p.load files = .ok (c, { p with config := some c }, files) := by
  have hexists : files.exists? p.configPath = .ok true := by rw [Files.exists?, hfind]
  have hdocument := readDocument_of_file languageOf_configPath hfind
  rw [document_fileOf hreads] at hdocument
  have hread : readConfig files p.configPath = .ok c := by
    rw [readConfig, hdocument, mapError_ok, ok_bind, GlobalConfig.ofEntries_entries hsettled,
      mapError_ok]
  rw [load, hunread, hexists]
  dsimp only
  rw [hread, map_ok]

theorem load_of_config (h : p.config = some c) : p.load files = .ok (c, p, files) := by
  rw [load, h]

theorem save_of_placeForFile (h : files.placeForFile p.configPath = .ok place) :
    p.save files c = .ok ({ p with config := some c }, files.put place (fileOf c)) := by
  rw [save, writeDocument, languageOf_configPath, Files.write, h]
  rfl

theorem save_eq_ok (h : p.save files c = .ok (q, files')) :
    q = { p with config := some c } ∧
      ∃ place, files.placeForFile p.configPath = .ok place ∧
        files' = files.put place (fileOf c) := by
  obtain ⟨written, hwrite, hq⟩ := bind_eq_ok.mp h
  cases hq
  rw [writeDocument, languageOf_configPath] at hwrite
  exact ⟨rfl, write_eq_ok hwrite⟩

theorem load_of_save (hsettled : c.Settled) (hreads : ReadsBack c)
    (h : p.save files c = .ok (q, files')) :
    ({ p with config := none } : Project).load files' = .ok (c, q, files') := by
  obtain ⟨rfl, place, hplace, rfl⟩ := save_eq_ok h
  obtain ⟨hlocate, hfile⟩ := placeForFile_eq_ok hplace
  exact load_of_fileOf rfl hsettled hreads
    (find_of_locate ((grown_put hfile).locate hlocate) at?_put_self)

/-! ## The directory of a project -/

/-- The directories of a project are there, and its configuration has a place below them. -/
structure Ready (directory : FilePath) (p : Project) (place : List Text) (files : Files) :
    Prop where
  root : p.root = directory.resolved files.home
  data : files.isDirectory p.dataPath = true
  logs : files.isDirectory p.logsPath = true
  located : files.locate p.configPath = .ok place
  parent : files.at? place.dropLast = some .directory
  file : files.at? place ≠ some .directory

theorem openAt_eq_ok (h : openAt files directory = (.ok p, files')) :
    p = ⟨directory.resolved files.home, none⟩ ∧
      ∃ made, files.ensureDirectories p.dataPath = .ok made ∧
        made.ensureDirectories p.logsPath = .ok files' := by
  unfold openAt at h
  dsimp only at h
  split at h
  · cases h
  · rename_i made hdata
    split at h
    · cases h
    · rename_i hlogs
      cases h
      exact ⟨rfl, made, hdata, hlogs⟩

theorem ready_of_openAt (h : openAt files directory = (.ok p, files'))
    (hnone : files'.exists? p.configPath = .ok false) :
    ∃ place, Ready directory p place files' ∧ files'.at? place = none := by
  obtain ⟨hp, made, hdata, hlogs⟩ := openAt_eq_ok h
  have hmade := ensureDirectories_extends hdata
  have hextends := ensureDirectories_extends hlogs
  have hisData := hextends.grown.isDirectory (ensureDirectories_isDirectory hdata)
  obtain ⟨parent, hparent, hdirectory⟩ := isDirectory_iff.mp hisData
  have hlocate : files'.locate p.configPath = .ok (parent ++ ["global_config.yaml".toList]) ∨
      files'.locate p.configPath = .error .nameTooLong :=
    locate_concat hparent hdirectory (by decide) (by decide) (by decide)
  have hconfig : files'.locate p.configPath = .ok (parent ++ ["global_config.yaml".toList]) := by
    rcases hlocate with hplace | hlong
    · exact hplace
    · -- whether there is a file at a path that is too long cannot be told
      have hfind : files'.find p.configPath = .error ⟨.nameTooLong, p.configPath⟩ := by
        unfold find
        rw [hlong]
      rw [Files.exists?, hfind] at hnone
      cases hnone
  have habsent : files'.at? (parent ++ ["global_config.yaml".toList]) = none := by
    cases hentry : files'.at? (parent ++ ["global_config.yaml".toList]) with
    | none => rfl
    | some entry =>
      rw [Files.exists?, find_of_locate hconfig hentry] at hnone
      cases hnone
  exact ⟨_, {
    root := by rw [hp, hextends.home, hmade.home]
    data := hisData
    logs := ensureDirectories_isDirectory hlogs
    located := hconfig
    parent := by rw [List.dropLast_concat, hdirectory]
    file := by rw [habsent]; exact (Option.some_ne_none _).symm }, habsent⟩

theorem configPath_congr (h : q.root = p.root) : q.configPath = p.configPath := by
  rw [configPath, dataPath, h]
  rfl

namespace Ready

theorem openAt (h : Ready directory p place files) :
    openAt files directory = (.ok ⟨p.root, none⟩, files) := by
  have hdata : files.ensureDirectories (dataPath ⟨p.root, none⟩) = .ok files :=
    ensureDirectories_of_isDirectory h.data
  have hlogs : files.ensureDirectories (logsPath ⟨p.root, none⟩) = .ok files :=
    ensureDirectories_of_isDirectory h.logs
  unfold Project.openAt
  dsimp only
  rw [← h.root, hdata]
  dsimp only
  rw [hlogs]

theorem put (h : Ready directory p place files) (content : Bytes) :
    Ready directory p place (files.put place (.file content)) := by
  have hgrown : Grown files (files.put place (.file content)) := grown_put h.file
  exact {
    root := h.root
    data := hgrown.isDirectory h.data
    logs := hgrown.isDirectory h.logs
    located := hgrown.locate h.located
    parent := hgrown.directory _ h.parent
    file := by simp }

theorem save (h : Ready directory p place files) (hroot : q.root = p.root) (c : GlobalConfig) :
    q.save files c = .ok ({ q with config := some c }, files.put place (fileOf c)) := by
  refine save_of_placeForFile ?_
  rw [configPath_congr hroot]
  exact placeForFile_of_parent h.located h.file h.parent

theorem load_of_none (h : Ready directory p place files) (hroot : q.root = p.root)
    (hunread : q.config = none) (hnone : files.at? place = none) :
    q.load files =
      .ok (.default, { q with config := some .default }, files.put place (fileOf .default)) := by
  have hfind : files.find p.configPath = .error ⟨.notFound, p.configPath⟩ := by
    unfold find
    rw [h.located]
    dsimp only
    rw [hnone]
  have hexists : files.exists? q.configPath = .ok false := by
    rw [configPath_congr hroot, Files.exists?, hfind]
  rw [load, hunread, hexists]
  dsimp only
  rw [h.save hroot, mapError_ok, map_ok]

theorem load_of_entry (h : Ready directory p place files) (hroot : q.root = p.root)
    (hunread : q.config = none) (hsettled : c.Settled) (hreads : ReadsBack c)
    (hentry : files.at? place = some (fileOf c)) :
    q.load files = .ok (c, { q with config := some c }, files) := by
  refine load_of_fileOf hunread hsettled hreads ?_
  rw [configPath_congr hroot]
  exact find_of_locate h.located hentry

end Ready

/-! ## Sessions -/

/-- What is done with the sessions on a directory, which are numbered. -/
inductive Event
  | opening (i : Nat)
  | loading (i : Nat)
  | saving (i : Nat) (c : GlobalConfig)

def Event.saved? : Event → Option GlobalConfig
  | .saving _ c => some c
  | _ => none

/-- The configurations that are saved, in order. -/
def saved (events : List Event) : List GlobalConfig := events.filterMap Event.saved?

theorem getLast?_saved_cons (e : Event) (events : List Event) (last : Option GlobalConfig) :
    (saved (e :: events)).getLast?.or last = (saved events).getLast?.or (e.saved?.or last) := by
  unfold saved
  rw [List.filterMap_cons]
  cases e.saved? with
  | none => rfl
  | some c =>
    dsimp only
    rw [List.getLast?_cons]
    cases (List.filterMap Event.saved? events).getLast? <;> rfl

/-- Sessions on one directory and the files that they share. -/
structure Sessions where
  files : Files
  session : Nat → Project

namespace Sessions

def step (directory : FilePath) (s : Sessions) (e : Event) : Except ConfigProblem Sessions :=
  match e with
  | .opening i =>
    match openAt s.files directory with
    | (.ok p, files) => .ok ⟨files, Function.update s.session i p⟩
    | (.error problem, _) => .error (.file problem)
  | .loading i => ((s.session i).load s.files).map fun (_, p, files) =>
      ⟨files, Function.update s.session i p⟩
  | .saving i c => (((s.session i).save s.files c).mapError .file).map fun (p, files) =>
      ⟨files, Function.update s.session i p⟩

def run (directory : FilePath) (s : Sessions) (events : List Event) :
    Except ConfigProblem Sessions :=
  events.foldlM (step directory) s

variable {s s' : Sessions} {e : Event} {events : List Event} {last last' : Option GlobalConfig}

/-- The file holds what was saved last; or nothing was saved, and there is no file yet. -/
structure Kept (directory : FilePath) (p : Project) (place : List Text)
    (last : Option GlobalConfig) (s : Sessions) : Prop where
  ready : Ready directory p place s.files
  root : ∀ i, (s.session i).root = p.root
  file : s.files.at? place = some (fileOf (last.getD .default)) ∨
    last = none ∧ s.files.at? place = none
  settled : (last.getD .default).Settled
  readsBack : ReadsBack (last.getD .default)

namespace Kept

theorem root_update (h : Kept directory p place last s) (i : Nat) (hq : q.root = p.root) (j : Nat) :
    (Function.update s.session i q j).root = p.root := by
  by_cases hj : j = i
  · rw [hj, Function.update_self, hq]
  · rw [Function.update_of_ne hj, h.root]

theorem update (h : Kept directory p place last s) (i : Nat) (hq : q.root = p.root) :
    Kept directory p place last ⟨s.files, Function.update s.session i q⟩ :=
  { h with root := h.root_update i hq }

theorem put (h : Kept directory p place last s) (hsettled : c.Settled) (hreads : ReadsBack c)
    (i : Nat) (hq : q.root = p.root) (hlast : last'.getD .default = c) :
    Kept directory p place last' ⟨s.files.put place (fileOf c), Function.update s.session i q⟩ where
  ready := h.ready.put _
  root := h.root_update i hq
  file := .inl (by rw [at?_put_self, hlast])
  settled := hlast.symm ▸ hsettled
  readsBack := hlast.symm ▸ hreads

end Kept

def Loadable (c : GlobalConfig) : Prop :=
  (∃ values, GlobalConfig.ofEntries values = .ok c) ∧ ReadsBack c

theorem step_kept (h : Kept directory p place last s)
    (hsaved : ∀ c, e.saved? = some c → Loadable c) :
    ∃ s', step directory s e = .ok s' ∧ Kept directory p place (e.saved?.or last) s' := by
  cases e with
  | opening i =>
    refine ⟨⟨s.files, Function.update s.session i ⟨p.root, none⟩⟩, ?_, h.update i rfl⟩
    unfold step
    dsimp only
    rw [h.ready.openAt]
  | loading i =>
    have hroot := h.root i
    have hloaded : ∀ {c q files'}, (s.session i).load s.files = .ok (c, q, files') →
        step directory s (.loading i) = .ok ⟨files', Function.update s.session i q⟩ := by
      intro c q files' hload
      unfold step
      dsimp only
      rw [hload, map_ok]
    cases hconfig : (s.session i).config with
    | some c =>
      -- a session that has read its configuration does not look at the file
      exact ⟨_, hloaded (load_of_config hconfig), h.update i hroot⟩
    | none =>
      rcases h.file with hentry | ⟨hlast, hnone⟩
      · exact ⟨_, hloaded (h.ready.load_of_entry hroot hconfig h.settled h.readsBack hentry),
          h.update i hroot⟩
      · refine ⟨_, hloaded (h.ready.load_of_none hroot hconfig hnone), ?_⟩
        subst hlast
        exact h.put h.settled h.readsBack i hroot rfl
  | saving i c =>
    obtain ⟨⟨values, haccepted⟩, hreads⟩ := hsaved c rfl
    refine ⟨⟨s.files.put place (fileOf c),
      Function.update s.session i { s.session i with config := some c }⟩, ?_, ?_⟩
    · unfold step
      dsimp only
      rw [h.ready.save (h.root i), mapError_ok, map_ok]
    · exact h.put (GlobalConfig.settled_of_ofEntries haccepted) hreads i (h.root i) rfl

/-- **Whatever the sessions do, the file holds what was saved last.** -/
theorem run_kept (h : Kept directory p place last s)
    (hsaved : ∀ c ∈ saved events, Loadable c) :
    ∃ s', run directory s events = .ok s' ∧
      Kept directory p place ((saved events).getLast?.or last) s' := by
  induction events generalizing s last with
  | nil => exact ⟨s, rfl, h⟩
  | cons e events ih =>
    have hfirst : ∀ c, e.saved? = some c → Loadable c := fun c hc =>
      hsaved c (List.mem_filterMap.mpr ⟨e, List.mem_cons_self, hc⟩)
    have hrest : ∀ c ∈ saved events, Loadable c := by
      intro c hc
      obtain ⟨e', he', hc⟩ := List.mem_filterMap.mp hc
      exact hsaved c (List.mem_filterMap.mpr ⟨e', List.mem_cons_of_mem e he', hc⟩)
    obtain ⟨between, hstep, hbetween⟩ := step_kept h hfirst
    obtain ⟨s', hrun, hkept⟩ := ih hbetween hrest
    refine ⟨s', ?_, ?_⟩
    · rw [run, List.foldlM_cons, hstep, ok_bind]
      exact hrun
    · rw [getLast?_saved_cons]
      exact hkept

end Sessions

/-! ## Documents that are read back -/

/-- Whether two scalars are the same null, number or text. -/
def sameScalar : Value → Value → Bool
  | .null, .null => true
  | .int m, .int n => m == n
  | .float x, .float y => x == y
  | .text t, .text u => t == u
  | _, _ => false

def sameEntries : List (Value × Value) → List (Value × Value) → Bool
  | [], [] => true
  | (k, v) :: entries, (k', v') :: entries' =>
    sameScalar k k' && sameScalar v v' && sameEntries entries entries'
  | _, _ => false

/-- Whether the document of a configuration is read as it was written, by reading it. -/
def readsBack? (c : GlobalConfig) : Bool :=
  match Yaml.read (Yaml.write (.map c.entries)) with
  | .ok (.map entries) => sameEntries entries c.entries
  | _ => false

theorem eq_of_sameScalar {v w : Value} (h : sameScalar v w = true) : v = w := by
  unfold sameScalar at h
  split at h
  · rfl
  · rw [eq_of_beq h]
  · rw [eq_of_beq h]
  · rw [eq_of_beq h]
  · cases h

theorem eq_of_sameEntries {entries entries' : List (Value × Value)}
    (h : sameEntries entries entries' = true) : entries = entries' := by
  induction entries generalizing entries' with
  | nil =>
    cases entries' with
    | nil => rfl
    | cons e entries' => cases h
  | cons e entries ih =>
    cases entries' with
    | nil => cases h
    | cons e' entries' =>
      rw [sameEntries, Bool.and_eq_true, Bool.and_eq_true] at h
      obtain ⟨⟨hkey, hvalue⟩, hrest⟩ := h
      rw [ih hrest, Prod.ext (eq_of_sameScalar hkey) (eq_of_sameScalar hvalue)]

theorem readsBack_of_check (h : readsBack? c = true) : ReadsBack c := by
  unfold readsBack? at h
  split at h
  · rename_i entries hread
    rw [ReadsBack, hread, eq_of_sameEntries h]
  · cases h

theorem readsBack_default : ReadsBack .default := readsBack_of_check (by decide +kernel)

/-! ## The round trip -/

/-- **A configuration is loaded as it was saved.** One that is accepted is read from its own
document as what it is. A project that saves it loads it, from memory, and anew, from the file. And
whatever sessions on one directory open, load and save, starting without a file, a session that is
then opened loads what was saved last, or the defaults. -/
theorem load_saved :
    (∀ {values c}, GlobalConfig.ofEntries values = .ok c →
      GlobalConfig.ofEntries c.entries = .ok c) ∧
    (∀ {values c p q files files'}, GlobalConfig.ofEntries values = .ok c → ReadsBack c →
      save p files c = .ok (q, files') →
        q.load files' = .ok (c, q, files') ∧
        load { p with config := none } files' = .ok (c, q, files')) ∧
    ∀ {files files' directory p events}, openAt files directory = (.ok p, files') →
      files'.exists? p.configPath = .ok false →
      (∀ c ∈ saved events, (∃ values, GlobalConfig.ofEntries values = .ok c) ∧ ReadsBack c) →
        ∃ s, Sessions.run directory ⟨files', fun _ => p⟩ events = .ok s ∧
          ∃ fresh, openAt s.files directory = (.ok fresh, s.files) ∧
            ∃ q files'', fresh.load s.files =
              .ok ((saved events).getLast?.getD .default, q, files'') := by
  refine ⟨?_, ?_, ?_⟩
  · intro values c h
    exact GlobalConfig.ofEntries_entries (GlobalConfig.settled_of_ofEntries h)
  · intro values c p q files files' h hreads hsave
    have hsettled := GlobalConfig.settled_of_ofEntries h
    refine ⟨load_of_config ?_, load_of_save hsettled hreads hsave⟩
    rw [(save_eq_ok hsave).1]
  · intro files files' directory p events hopen hnone hsaved
    obtain ⟨place, hready, habsent⟩ := ready_of_openAt hopen hnone
    have hstart : Sessions.Kept directory p place none ⟨files', fun _ => p⟩ := {
      ready := hready
      root := fun _ => rfl
      file := .inr ⟨rfl, habsent⟩
      settled := GlobalConfig.settled_default
      readsBack := readsBack_default }
    obtain ⟨s, hrun, hkept⟩ := Sessions.run_kept hstart hsaved
    rw [Option.or_none] at hkept
    refine ⟨s, hrun, ⟨p.root, none⟩, hkept.ready.openAt, ?_⟩
    rcases hkept.file with hentry | ⟨hlast, hnone⟩
    · exact ⟨_, _, hkept.ready.load_of_entry rfl rfl hkept.settled hkept.readsBack hentry⟩
    · rw [hlast]
      exact ⟨_, _, hkept.ready.load_of_none rfl rfl hnone⟩

/-- A directory that has been opened and holds no file. -/
def opened : Files :=
  ⟨["h".toList],
    [(["h".toList, "logs".toList], .directory), (["h".toList, "data".toList], .directory)]⟩

/-- One session loads the defaults, which another one replaces; a third one loads those. -/
def replaced : List Event := [.loading 0, .opening 1, .saving 1 GlobalConfig.looseConfig, .loading 0]

theorem load_saved_of_replaced :
    GlobalConfig.ofEntries GlobalConfig.looseConfig.entries = .ok GlobalConfig.looseConfig ∧
    (∃ q files, unread.save opened GlobalConfig.looseConfig = .ok (q, files) ∧
      q.load files = .ok (GlobalConfig.looseConfig, q, files) ∧
      unread.load files = .ok (GlobalConfig.looseConfig, q, files)) ∧
    ∃ s, Sessions.run ⟨[], []⟩ ⟨opened, fun _ => unread⟩ replaced = .ok s ∧
      ∃ fresh, openAt s.files ⟨[], []⟩ = (.ok fresh, s.files) ∧
        ∃ q files, fresh.load s.files = .ok (GlobalConfig.looseConfig, q, files) := by
  have haccepted := GlobalConfig.ofEntries_looseValues
  have hreads : ReadsBack GlobalConfig.looseConfig := readsBack_of_check (by decide +kernel)
  refine ⟨load_saved.1 haccepted, ?_, ?_⟩
  · have hplace : opened.placeForFile unread.configPath =
        .ok ["h".toList, "data".toList, "global_config.yaml".toList] := by decide +kernel
    have hsave := save_of_placeForFile (c := GlobalConfig.looseConfig) hplace
    obtain ⟨hcached, hread⟩ := load_saved.2.1 haccepted hreads hsave
    exact ⟨_, _, hsave, hcached, hread⟩
  · have hopen : openAt ⟨["h".toList], []⟩ ⟨[], []⟩ = (.ok unread, opened) := by rfl
    have hnone : opened.exists? unread.configPath = .ok false := by decide +kernel
    have hsaved : ∀ c ∈ saved replaced,
        (∃ values, GlobalConfig.ofEntries values = .ok c) ∧ ReadsBack c :=
      List.forall_mem_singleton.mpr ⟨⟨GlobalConfig.looseValues, haccepted⟩, hreads⟩
    exact load_saved.2.2 hopen hnone hsaved

end LinkHarvest.Project
