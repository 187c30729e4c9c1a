import LinkHarvest.Proofs.Files.Path
import LinkHarvest.Proofs.Options.FetchOptions
import LinkHarvest.Proofs.Text.UpperCase

/-!
# Settled configurations

Reading a configuration reduces its paths, trims its proxy, and trims its method and puts it in upper
case. A configuration in this form, which keeps the rules (`Settled`), is read back from its own
document (`ofEntries_entries`). So the configurations that are accepted are the settled ones
(`exists_ofEntries_iff`), and reading one a second time changes nothing.
-/

namespace LinkHarvest.Options

open Fallible

variable {values : List (Value × Value)} {proxy : Text} {v : Value}

/-! ## Paths -/

theorem toPath_ofText (t : Text) : toPath (.ofText t) = .ok (.ofText t) := by
  rw [Value.ofText, toPath, LooseText.toText_ofText]

theorem toOptionalPath_ofText {t : Text} (h : t ≠ []) :
    toOptionalPath (.ofText t) = .ok (some (.ofText t)) := by
  have hloose : LooseText.ofText t ≠ [] := fun hnil => h (List.map_eq_nil_iff.mp hnil)
  unfold toOptionalPath
  split
  · rename_i hnull
    cases hnull
  · rename_i hempty
    exact absurd (Value.text.inj hempty) hloose
  · rw [toPath_ofText, map_ok]

theorem toOptionalPath_optionalText {path : Option FilePath}
    (h : ∀ p, path = some p → p.Normal) :
    toOptionalPath (GlobalConfig.optionalText (path.map FilePath.text)) = .ok path := by
  cases path with
  | none => rfl
  | some p =>
    show toOptionalPath (.ofText p.text) = .ok (some p)
    rw [toOptionalPath_ofText p.text_ne_nil, FilePath.ofText_text (h p rfl)]

theorem normal_of_toPath {p : FilePath} (h : toPath v = .ok p) : p.Normal := by
  unfold toPath at h
  split at h
  · cases h
    exact FilePath.normal_ofText _
  · cases h

theorem normal_of_toOptionalPath {path : Option FilePath} (h : toOptionalPath v = .ok path) :
    ∀ p, path = some p → p.Normal := by
  unfold toOptionalPath at h
  split at h
  · cases h
    exact nofun
  · cases h
    exact nofun
  · obtain ⟨p, hp, rfl⟩ := map_eq_ok.mp h
    rintro _ ⟨⟩
    exact normal_of_toPath hp

/-! ## Proxies -/

theorem checkProxy_of_isProxyUrl (h : IsProxyUrl (Text.trim proxy)) :
    checkProxy proxy = .ok (Text.trim proxy) := by
  obtain ⟨parts, hsplit, hscheme, hnetloc⟩ := h
  unfold checkProxy
  rw [hsplit]
  refine if_neg ?_
  simp [hscheme, hnetloc]

theorem not_isProxyUrl_nil : ¬ IsProxyUrl [] := by
  rintro ⟨parts, hsplit, -, hnetloc⟩
  cases hsplit
  exact hnetloc rfl

theorem not_isBlank_of_isProxyUrl (h : IsProxyUrl proxy) (htrim : Text.trim proxy = proxy) :
    ¬ FetchOptions.IsBlank (.ofText proxy) := by
  rintro ⟨t, ht, hblank⟩
  obtain rfl := Value.ofText_injective ht
  cases proxy with
  | nil => exact not_isProxyUrl_nil h
  | cons c t =>
    have hvisible := (Text.tight_trim (c :: t)).1 c (by rw [htrim]; rfl)
    rw [hblank c List.mem_cons_self] at hvisible
    cases hvisible

theorem readText_ofText {t : Text} (h : ¬ FetchOptions.IsBlank (.ofText t)) :
    FetchOptions.readText (.ofText t) = .ok (some t) := by
  rw [FetchOptions.readText, FetchOptions.blankAsNull_of_not_isBlank h]
  exact congrArg (Except.ok ∘ some) (LooseText.toText_ofText t)

namespace GlobalConfig

variable {c : GlobalConfig}

/-! ## What is read -/

/-- Every setting has what its value is read as. -/
structure Reads (values : List (Value × Value)) (c : GlobalConfig) : Prop where
  databasePath : fieldOr values "database_path" default.databasePath toPath = .ok c.databasePath
  workers : fieldOr values "default_workers" default.defaultWorkers readWorkers =
    .ok c.defaultWorkers
  agent : fieldOr values "user_agent" default.agent toOptionalText = .ok c.agent
  proxy : fieldOr values "proxy" default.proxy readProxy = .ok c.proxy
  timeout : fieldOr values "request_timeout" default.timeout readTimeout = .ok c.timeout
  method : fieldOr values "request_method" default.method readMethod = .ok c.method
  defaultOutput : fieldOr values "default_output" default.defaultOutput toOptionalPath =
    .ok c.defaultOutput

theorem ofEntries_eq_ok : ofEntries values = .ok c ↔ Reads values c := by
  constructor
  · intro h
    unfold ofEntries at h
    obtain ⟨databasePath, hdatabase, h⟩ := bind_eq_ok.mp h
    obtain ⟨defaultOutput, houtput, h⟩ := bind_eq_ok.mp h
    split at h
    · rename_i hworkers hagent hproxy htimeout hmethod
      cases h
      exact ⟨hdatabase, hworkers, hagent, hproxy, htimeout, hmethod, houtput⟩
    · cases h
  · intro h
    unfold ofEntries
    rw [h.databasePath, h.workers, h.agent, h.proxy, h.timeout, h.method, h.defaultOutput]
    rfl

/-- A method as it is read: trimmed, in upper case, and not empty. -/
def IsMethod (t : Text) : Prop := t ≠ [] ∧ Text.Tight t ∧ Text.upper t = t

/-- A configuration that keeps the rules, in the form in which it is read. -/
structure Settled (c : GlobalConfig) : Prop extends Valid c where
  databasePath : c.databasePath.Normal
  trimmed : ∀ proxy, c.proxy = some proxy → Text.trim proxy = proxy
  method : IsMethod c.method
  defaultOutput : ∀ p, c.defaultOutput = some p → p.Normal

theorem readProxy_trimmed {proxy : Option Text} (h : readProxy v = .ok proxy) :
    ∀ url, proxy = some url → Text.trim url = url := by
  rintro url rfl
  unfold readProxy at h
  split at h
  · cases h
  · split at h
    · cases h
    · obtain ⟨checked, hchecked, hurl⟩ := map_eq_ok.mp h
      cases hurl
      rw [(checkProxy_eq_ok hchecked).1, Text.trim_trim]

theorem isMethod_default : IsMethod default.method := by
  refine ⟨by decide, ?_, by decide⟩
  have htrim : Text.trim default.method = default.method := by decide
  exact htrim ▸ Text.tight_trim default.method

theorem readMethod_eq_ok {method : Text} (h : readMethod v = .ok method) : IsMethod method := by
  unfold readMethod at h
  split at h
  · cases h
  · dsimp only at h
    generalize ht : (if v.isTruthy = true then Text.upper (Text.trim v.display.toText) else []) = t
      at h
    obtain rfl := Except.ok.inj h
    split
    · exact isMethod_default
    · rename_i hne
      split at ht
      · subst ht
        exact ⟨by simpa using hne, (Text.tight_trim _).upper, Text.upper_upper _⟩
      · subst ht
        exact absurd rfl hne

theorem settled_of_ofEntries (h : ofEntries values = .ok c) : c.Settled := by
  have hreads := ofEntries_eq_ok.mp h
  exact {
    toValid := valid_of_ofEntries h
    databasePath := fieldOr_eq_ok hreads.databasePath (FilePath.normal_ofText _) fun _ _ =>
      normal_of_toPath
    trimmed := fieldOr_eq_ok hreads.proxy nofun fun _ _ => readProxy_trimmed
    method := fieldOr_eq_ok hreads.method isMethod_default fun _ _ => readMethod_eq_ok
    defaultOutput := fieldOr_eq_ok hreads.defaultOutput
      (fun _ hp => Option.some.inj hp ▸ FilePath.normal_ofText _) fun _ _ =>
        normal_of_toOptionalPath }

/-! ## Reading a configuration again -/

theorem toOptionalText_optionalText (t : Option Text) :
    toOptionalText (optionalText t) = .ok t := by
  cases t with
  | none => rfl
  | some t => exact congrArg (Except.ok ∘ some) (LooseText.toText_ofText t)

theorem readWorkers_int {n : Int} (h : 1 ≤ n ∧ n ≤ 20) : readWorkers (.int n) = .ok n := by
  show checkWorkers n = .ok n
  unfold checkWorkers Retrieval.minWorkers Retrieval.maxWorkers
  rw [if_neg (by omega), if_neg (by omega)]

theorem readProxy_optionalText {proxy : Option Text}
    (h : ∀ url, proxy = some url → IsProxyUrl url ∧ Text.trim url = url) :
    readProxy (optionalText proxy) = .ok proxy := by
  cases proxy with
  | none => rfl
  | some url =>
    obtain ⟨hurl, htrim⟩ := h url rfl
    have hcheck : checkProxy url = .ok url := by
      rw [checkProxy_of_isProxyUrl (htrim.symm ▸ hurl), htrim]
    show readProxy (.ofText url) = .ok (some url)
    unfold readProxy
    rw [FetchOptions.blankAsNull_of_not_isBlank (not_isBlank_of_isProxyUrl hurl htrim)]
    show (checkProxy (LooseText.ofText url).toText).map some = .ok (some url)
    rw [LooseText.toText_ofText, hcheck, map_ok]

theorem readTimeout_float {x : Binary64} (h : x.isNonPositive = false) :
    readTimeout (.float x) = .ok x := by
  show (if x.isNonPositive then Except.error Fault.timeoutNotPositive else .ok x) = .ok x
  rw [if_neg (by simp [h])]

theorem readMethod_ofText {t : Text} (h : IsMethod t) : readMethod (.ofText t) = .ok t := by
  obtain ⟨hne, htight, hupper⟩ := h
  have htruthy : (Value.ofText t).isTruthy = true := by
    cases t with
    | nil => exact absurd rfl hne
    | cons c t => rfl
  have hshown : (Value.ofText t).display.toText = t := LooseText.toText_ofText t
  unfold readMethod
  rw [if_neg (by exact nofun), htruthy, hshown, Text.trim_of_tight htight, hupper]
  simp [hne]

/-- **A settled configuration is read back from its document.** -/
theorem ofEntries_entries (h : c.Settled) : ofEntries c.entries = .ok c := by
  refine ofEntries_eq_ok.mpr ⟨?_, ?_, ?_, ?_, ?_, ?_, ?_⟩
  · rw [fieldOr_of_find? (v := .ofText c.databasePath.text) rfl, toPath_ofText,
      FilePath.ofText_text h.databasePath]
  · rw [fieldOr_of_find? (v := .int c.defaultWorkers) rfl, readWorkers_int h.workers]
  · rw [fieldOr_of_find? (v := optionalText c.agent) rfl, toOptionalText_optionalText]
  · rw [fieldOr_of_find? (v := optionalText c.proxy) rfl,
      readProxy_optionalText fun url hurl => ⟨h.proxy url hurl, h.trimmed url hurl⟩]
  · rw [fieldOr_of_find? (v := .float c.timeout) rfl, readTimeout_float h.timeout]
  · rw [fieldOr_of_find? (v := .ofText c.method) rfl, readMethod_ofText h.method]
  · rw [fieldOr_of_find? (v := optionalText (c.defaultOutput.map FilePath.text)) rfl,
      toOptionalPath_optionalText h.defaultOutput]

theorem exists_ofEntries_iff : (∃ values, ofEntries values = .ok c) ↔ c.Settled :=
  ⟨fun ⟨_, h⟩ => settled_of_ofEntries h, fun h => ⟨c.entries, ofEntries_entries h⟩⟩

theorem settled_default : default.Settled :=
  settled_of_ofEntries (show ofEntries [] = .ok default from rfl)

/-- Settings in forms that reading changes. -/
def looseValues : List (Value × Value) :=
  [(.ofText "database_path", .ofText "//a/./b//"), (.ofText "default_workers", .ofText " 20 "),
    (.ofText "user_agent", .ofText "  "), (.ofText "proxy", .ofText " SOCKS5H://h:1080 "),
    (.ofText "request_method", .ofText " post "), (.ofText "default_output", .ofText "out/")]

def looseConfig : GlobalConfig where
  databasePath := ⟨"//".toList, ["a".toList, "b".toList]⟩
  defaultWorkers := 20
  agent := some "  ".toList
  proxy := some "SOCKS5H://h:1080".toList
  timeout := default.timeout
  method := "POST".toList
  defaultOutput := some ⟨[], ["out".toList]⟩

theorem ofEntries_looseValues : ofEntries looseValues = .ok looseConfig := by decide +kernel

end GlobalConfig

end LinkHarvest.Options
