import LinkHarvest.Project.Configuration
import LinkHarvest.Proofs.Options.GlobalConfig

/-!
# The configuration file

What becomes of the file of a project's configuration, whatever it holds. `load_of_file`: it is
accepted, and then the configuration keeps the rules, or it is reported as invalid, unless its
content escapes both (`Escapes`): a value that is no path stands where a path is read, or the reader
of YAML gives up in a way that the reader of configurations does not know of.
-/

namespace LinkHarvest.Project

open Fallible Options

variable {p : Project} {files : Files} {path : FilePath} {content : Bytes}

/-! ## Documents -/

@[simp] theorem languageOf_configPath : languageOf p.configPath = .yaml := by
  have hname : p.configPath.name = "global_config.yaml".toList := by
    simp [configPath, FilePath.name]
  have hsuffix : p.configPath.suffix = ".yaml".toList := by
    rw [FilePath.suffix, hname]
    rfl
  rw [languageOf, if_pos (.inl hsuffix)]

def document (content : Bytes) : Except DocumentProblem Value := do
  documentOf .yaml (Text.withLineFeeds (← (Utf8.decode content).mapError .encoding))

theorem readDocument_of_file (hlanguage : languageOf path = .yaml)
    (hfile : files.find path = .ok (.file content)) :
    readDocument files path =
      match document content with
      | .ok (.map entries) => .ok entries
      | .ok _ => .error (.noMapping path)
      | .error problem => .error problem := by
  have hread : files.read path = .ok content := by rw [Files.read, hfile]
  unfold readDocument document
  rw [hread, hlanguage, mapError_ok, ok_bind]
  cases (Utf8.decode content).mapError DocumentProblem.encoding with
  | error problem => rfl
  | ok t =>
    rw [ok_bind, ok_bind]
    cases documentOf .yaml (Text.withLineFeeds t) with
    | error problem => rfl
    | ok v => cases v <;> rfl

theorem document_eq_error {problem : DocumentProblem} (h : document content = .error problem) :
    (∃ fault, problem = .encoding fault) ∨ ∃ fault, problem = .yaml fault := by
  rcases bind_eq_error.mp h with h | ⟨t, -, h⟩
  · cases hdecode : Utf8.decode content with
    | error fault =>
      rw [hdecode] at h
      cases h
      exact .inl ⟨fault, rfl⟩
    | ok t =>
      rw [hdecode] at h
      cases h
  · unfold documentOf at h
    dsimp only at h
    split at h
    · cases h
    · rename_i fault _
      cases h
      exact .inr ⟨fault, rfl⟩

/-! ## Configurations -/

/-- What the reader of YAML gives up on by itself: a number that is too large for it, or a scalar
that is tagged as something that it is not. -/
inductive Unforeseen : Yaml.Problem → Prop
  | codePointSize : Unforeseen .codePointSize
  | unitSize : Unforeseen .unitSize
  | truthValue (word : Text) : Unforeseen (.truthValue word)
  | noDigits : Unforeseen .noDigits
  | notATime : Unforeseen .notATime
  | notAText : Unforeseen .notAText

theorem isContent_yaml {fault : Yaml.Problem} :
    (DocumentProblem.yaml fault).isContent = false ↔ Unforeseen fault := by
  constructor
  · intro h
    cases fault <;> first | constructor | cases h
  · rintro ⟨⟩ <;> rfl

/-- The ways past the report: a value that is no path stands where a path is read, or the reader of
YAML gives up. -/
inductive Escapes (content : Bytes) : Prop
  | path {entries : List (Value × Value)} (holds : document content = .ok (.map entries))
      (missing : NoPath entries)
  | scalar {fault : Yaml.Problem} (fails : document content = .error (.yaml fault))
      (unforeseen : Unforeseen fault)

theorem escapes_of_ok {v : Value} (h : document content = .ok v) :
    Escapes content ↔ ∃ entries, v = .map entries ∧ NoPath entries := by
  constructor
  · rintro (⟨holds, missing⟩ | ⟨fails, -⟩)
    · cases h.symm.trans holds
      exact ⟨_, rfl, missing⟩
    · cases h.symm.trans fails
  · rintro ⟨entries, rfl, missing⟩
    exact .path h missing

theorem escapes_of_error {problem : DocumentProblem} (h : document content = .error problem) :
    Escapes content ↔ problem.isContent = false := by
  constructor
  · rintro (⟨holds, -⟩ | ⟨fails, unforeseen⟩)
    · cases h.symm.trans holds
    · cases h.symm.trans fails
      exact isContent_yaml.mpr unforeseen
  · intro hcontent
    rcases document_eq_error h with ⟨fault, rfl⟩ | ⟨fault, rfl⟩
    · cases hcontent
    · exact .scalar h (isContent_yaml.mp hcontent)

theorem isInvalid_options {entries : List (Value × Value)} {rejection : Rejection}
    (h : GlobalConfig.ofEntries entries = .error rejection) :
    (ConfigProblem.options path rejection).isInvalid = false ↔ NoPath entries := by
  rw [← GlobalConfig.exists_notAPath_iff, h]
  cases rejection <;> simp [ConfigProblem.isInvalid]

theorem readConfig_of_file (hlanguage : languageOf path = .yaml)
    (hfile : files.find path = .ok (.file content)) :
    (∃ c, readConfig files path = .ok c ∧ c.Valid ∧ ¬ Escapes content) ∨
      ∃ problem, readConfig files path = .error problem ∧
        (problem.isInvalid = false ↔ Escapes content) := by
  have hread := readDocument_of_file hlanguage hfile
  unfold readConfig
  cases hdocument : document content with
  | error problem =>
    rw [hdocument] at hread
    exact .inr ⟨.document path problem, by rw [hread]; rfl, (escapes_of_error hdocument).symm⟩
  | ok v =>
    rw [hdocument] at hread
    have hescapes := escapes_of_ok hdocument
    cases v with
    | map entries =>
      simp only [Value.map.injEq, exists_eq_left'] at hescapes
      rw [hread, mapError_ok, ok_bind, hescapes]
      cases hentries : GlobalConfig.ofEntries entries with
      | ok c =>
        refine .inl ⟨c, rfl, GlobalConfig.valid_of_ofEntries hentries, fun missing => ?_⟩
        obtain ⟨kind, hkind⟩ := GlobalConfig.exists_notAPath_iff.mpr missing
        cases hentries.symm.trans hkind
      | error rejection => exact .inr ⟨.options path rejection, rfl, isInvalid_options hentries⟩
    | _ =>
      -- a document of any other kind is reported to be no mapping
      refine .inr ⟨.document path (.noMapping path), by rw [hread]; rfl, ?_⟩
      simp [hescapes, ConfigProblem.isInvalid, DocumentProblem.isContent]

/-- **The file of a configuration is accepted or refused, and a refusal is reported unless the
content escapes.** An accepted configuration keeps the rules, and is then the project's. -/
theorem load_of_file (hunread : p.config = none)
    (hfile : files.find p.configPath = .ok (.file content)) :
    (∃ c, p.load files = .ok (c, { p with config := some c }, files) ∧ c.Valid ∧
        ¬ Escapes content) ∨
      ∃ problem, p.load files = .error problem ∧ (problem.isInvalid = false ↔ Escapes content) := by
  have hexists : files.exists? p.configPath = .ok true := by rw [Files.exists?, hfile]
  have hload : p.load files = (readConfig files p.configPath).map fun config =>
      (config, { p with config := some config }, files) := by
    rw [load, hunread, hexists]
  rcases readConfig_of_file languageOf_configPath hfile with
    ⟨c, hread, hc⟩ | ⟨problem, hread, hescapes⟩
  · exact .inl ⟨c, by rw [hload, hread, map_ok], hc⟩
  · exact .inr ⟨problem, by rw [hload, hread, map_error], hescapes⟩

/-- A project that has not read its configuration. -/
def unread : Project := ⟨⟨['/'], ["h".toList]⟩, none⟩

/-- Files with a configuration of this content. -/
def configured (content : Bytes) : Files :=
  ⟨["h".toList], [(["h".toList, "data".toList], .directory),
    (["h".toList, "data".toList, "global_config.yaml".toList], .file content)]⟩

/-- Whether the refusal of this content is reported; nothing when it is accepted. -/
def refusal? (content : Bytes) : Option Bool :=
  match unread.load (configured content) with
  | .ok _ => none
  | .error problem => some problem.isInvalid

def nullPath : Bytes := Utf8.encode "database_path: null\n"

def sevenWorkers : Bytes := Utf8.encode "default_workers: 7\n"

/-- Null in place of a path escapes, and seven workers are accepted. -/
theorem load_nullPath_sevenWorkers :
    (∃ problem, unread.load (configured nullPath) = .error problem ∧ problem.isInvalid = false ∧
      Escapes nullPath) ∧
    ∃ c, unread.load (configured sevenWorkers) =
      .ok (c, { unread with config := some c }, configured sevenWorkers) ∧ c.Valid := by
  have hnull : refusal? nullPath = some false := by decide +kernel
  have hseven : refusal? sevenWorkers = none := by decide +kernel
  constructor
  · rcases @load_of_file unread (configured nullPath) nullPath rfl rfl with
      ⟨c, hload, -⟩ | ⟨problem, hload, hescapes⟩
    · rw [refusal?, hload] at hnull
      cases hnull
    · rw [refusal?, hload] at hnull
      have hunreported : problem.isInvalid = false := Option.some.inj hnull
      exact ⟨problem, hload, hunreported, hescapes.mp hunreported⟩
  · rcases @load_of_file unread (configured sevenWorkers) sevenWorkers rfl rfl with
      ⟨c, hload, hvalid, -⟩ | ⟨problem, hload, -⟩
    · exact ⟨c, hload, hvalid⟩
    · rw [refusal?, hload] at hseven
      cases hseven

end LinkHarvest.Project
