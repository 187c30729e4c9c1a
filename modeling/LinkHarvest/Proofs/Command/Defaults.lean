import LinkHarvest.Proofs.Command.Desk
import LinkHarvest.Proofs.Options.Settled
import LinkHarvest.Proofs.Project.Repository

/-!
# Fetches that leave everything to the configuration

A fetch takes from the configuration what its arguments leave out. What is taken was checked when
the configuration was read, and is checked once more as an option of the run. The second check never
refuses what the first one accepted, and changes nothing but a blank user agent
(`fetch_of_plain`): so with an open project, a fetch of one source always runs.
-/

namespace LinkHarvest.Command

open Fallible Options

variable {env : Environment} {verbose : Bool} {d : Desk} {a : FetchArguments} {m : Mode}
  {c : GlobalConfig} {p : Project} {files : Files}

/-! ## Open projects -/

theorem openDatabase_config (h : openDatabase env verbose c p files = .ok d) : d.config = c := by
  unfold openDatabase at h
  dsimp only at h
  split at h
  · cases h
  · cases h
    rfl

theorem settled_of_load {q : Project} {files' : Files} (hunread : p.config = none)
    (h : p.load files = .ok (c, q, files')) : c.Settled := by
  rw [Project.load, hunread] at h
  dsimp only at h
  split at h
  · cases h
  · obtain ⟨config, hread, hconfig⟩ := map_eq_ok.mp h
    cases hconfig
    unfold Project.readConfig at hread
    obtain ⟨entries, -, haccepted⟩ := bind_eq_ok.mp hread
    exact GlobalConfig.settled_of_ofEntries (mapError_eq_ok.mp haccepted)
  · obtain ⟨saved, -, hconfig⟩ := map_eq_ok.mp h
    cases hconfig
    exact GlobalConfig.settled_default

theorem openDesk_settled (h : openDesk env verbose = .ok d) : d.config.Settled := by
  unfold openDesk at h
  dsimp only at h
  split at h
  · cases h
  · split at h
    · cases h
    · rename_i hopen
      split at h
      · cases h
      · rename_i hload
        rw [openDatabase_config h]
        refine settled_of_load ?_ hload
        rw [(Project.openAt_eq_ok hopen).1]

/-! ## Arguments -/

/-- Text that shows something. -/
def shown (t : Option Text) : Option Text := t.filter fun t => t.any fun c => !Text.isBlank c

namespace FetchArguments

/-- The arguments leave to the configuration what it can say. -/
structure Plain (a : FetchArguments) : Prop where
  agent : a.agent = none
  proxy : a.proxy = none
  workers : a.workers = none
  output : a.output = none

/-- The arguments name a source of a mode. Zero is no subscription, and white space is no URL. -/
def Names (a : FetchArguments) : Mode → Prop
  | .byId => ∃ n, a.subscription = some n ∧ n ≠ 0
  | .byUrl => ∃ t, a.url = some t ∧ ∃ c ∈ t, Text.isBlank c = false
  | .allEnabled => a.fetchAll = true
  | .byFile => ∃ t, a.file = some t

/-- The options of a run that leaves everything else to the configuration. -/
def merged (a : FetchArguments) (c : GlobalConfig) : FetchOptions where
  subscription := a.subscription.filter fun n => n ≠ 0
  url := shown a.url
  fetchAll := a.fetchAll
  file := a.file.map .ofText
  agent := shown c.agent
  proxy := c.proxy
  workers := c.defaultWorkers
  output := c.defaultOutput

theorem selects_merged (a : FetchArguments) (c : GlobalConfig) (m : Mode) :
    (a.merged c).Selects m ↔ a.Names m := by
  cases m with
  | byId => cases h : a.subscription <;> simp [FetchOptions.Selects, Names, merged, h]
  | byUrl => cases h : a.url <;> simp [FetchOptions.Selects, Names, merged, shown, h]
  | allEnabled => exact Iff.rfl
  | byFile => cases h : a.file <;> simp [FetchOptions.Selects, Names, merged, h]

end FetchArguments

/-! ## The second check -/

theorem readText_optionalText (t : Option Text) :
    FetchOptions.readText (GlobalConfig.optionalText t) = .ok (shown t) := by
  cases t with
  | none => rfl
  | some t =>
    show FetchOptions.readText (.ofText t) = .ok (shown (some t))
    by_cases hblank : FetchOptions.IsBlank (.ofText t)
    · obtain ⟨u, hu, hall⟩ := hblank
      obtain rfl := Value.ofText_injective hu
      have hnone : shown (some t) = none := by simpa [shown] using hall
      rw [FetchOptions.readText, FetchOptions.blankAsNull_of_isBlank ⟨t, rfl, hall⟩, hnone]
      rfl
    · have hsome : shown (some t) = some t := by
        by_contra hne
        refine hblank ⟨t, rfl, ?_⟩
        simpa [shown] using hne
      rw [readText_ofText hblank, hsome]

theorem readId_int (n : Option Int) :
    FetchOptions.readId ((n.map Value.int).getD .null) = .ok (n.filter fun n => n ≠ 0) := by
  cases n with
  | none => rfl
  | some n =>
    show FetchOptions.readId (.int n) = _
    unfold FetchOptions.readId
    by_cases hzero : n = 0
    · subst hzero
      rfl
    · have hid : ¬ FetchOptions.isNoId (.int n) = true := by
        rw [FetchOptions.isNoId_iff]
        rintro (hint | htext)
        · exact hzero (Option.some.inj hint)
        · cases htext
      rw [if_neg hid]
      simp [toInteger, Option.filter, hzero]

theorem readProxy_optionalText
    (h : ∀ url, c.proxy = some url → IsProxyUrl url ∧ Text.trim url = url) :
    FetchOptions.readProxy (GlobalConfig.optionalText c.proxy) = .ok c.proxy := by
  unfold FetchOptions.readProxy
  cases hproxy : c.proxy with
  | none => rfl
  | some url =>
    obtain ⟨hurl, htrim⟩ := h url hproxy
    have hread : FetchOptions.readText (GlobalConfig.optionalText (some url)) = .ok (some url) :=
      readText_ofText (not_isBlank_of_isProxyUrl hurl htrim)
    have hcheck : checkProxy url = .ok url := by
      rw [checkProxy_of_isProxyUrl (htrim.symm ▸ hurl), htrim]
    rw [hread]
    dsimp only
    rw [hcheck, map_ok]

/-- **What a settled configuration says is read as an option of a run without a change**, but for a
blank user agent. -/
theorem reads_fetchValues (h : c.Settled) (hplain : a.Plain)
    (hone : (a.merged c).selected.count true = 1) :
    FetchOptions.Reads (Desk.fetchValues c a) (a.merged c) := by
  obtain ⟨subscription, url, fetchAll, file, agent, proxy, workers, output⟩ := a
  obtain ⟨hagent, hproxy, hworkers, houtput⟩ := hplain
  dsimp only at hagent hproxy hworkers houtput
  subst hagent hproxy hworkers houtput
  refine ⟨?_, ?_, ?_, ?_, ?_, ?_, ?_, ?_, hone⟩
  · rw [fieldOr_of_find? (v := (subscription.map Value.int).getD .null) rfl]
    exact readId_int subscription
  · rw [fieldOr_of_find? (v := GlobalConfig.optionalText url) rfl]
    exact readText_optionalText url
  · rw [fieldOr_of_find? (v := .bool fetchAll) rfl]
    rfl
  · rw [fieldOr_of_find? (v := GlobalConfig.optionalText ((file.map FilePath.ofText).map
      FilePath.text)) (by rw [Option.map_map]; rfl)]
    refine toOptionalPath_optionalText fun p hp => ?_
    obtain ⟨t, -, rfl⟩ := Option.map_eq_some_iff.mp hp
    exact FilePath.normal_ofText t
  · rw [fieldOr_of_find? (v := GlobalConfig.optionalText c.agent) rfl]
    exact readText_optionalText c.agent
  · rw [fieldOr_of_find? (v := GlobalConfig.optionalText c.proxy) rfl]
    exact readProxy_optionalText fun url hurl => ⟨h.proxy url hurl, h.trimmed url hurl⟩
  · rw [fieldOr_of_find? (v := .int c.defaultWorkers) rfl]
    exact GlobalConfig.readWorkers_int h.workers
  · rw [fieldOr_of_find? (v := GlobalConfig.optionalText (c.defaultOutput.map FilePath.text)) rfl]
    exact toOptionalPath_optionalText h.defaultOutput

/-! ## The command -/

/-- What a run with options leaves behind. -/
def Desk.report (d : Desk) (env : Environment) (options : FetchOptions) : Report :=
  let r := Run.run (d.setting env) options d.files (.start d.store [])
  ⟨fetchEnding r.result, fetchLines r.result, r.state.sent, [], d.filed r.state.store r.files⟩

theorem fetch_of_ofEntries {options : FetchOptions}
    (h : FetchOptions.ofEntries (Desk.fetchValues d.config a) = .ok options) :
    d.fetch env a = d.report env options := by
  unfold Desk.fetch Desk.report
  rw [h]

/-- **A fetch of one source that leaves everything else to the configuration has options**, whatever
configuration is accepted: the workers, the proxy and the output that stand there, and the user
agent unless it is blank. So with an open project such a fetch runs with these options. -/
theorem fetch_of_plain (hplain : a.Plain) (hone : ∀ m', a.Names m' ↔ m' = m) :
    (∀ {values c}, GlobalConfig.ofEntries values = .ok c →
      FetchOptions.ofEntries (Desk.fetchValues c a) = .ok (a.merged c) ∧ (a.merged c).mode = m) ∧
    ∀ {env verbose d}, openDesk env verbose = .ok d →
      d.fetch env a = d.report env (a.merged d.config) := by
  have hoptions : ∀ {c : GlobalConfig}, c.Settled →
      FetchOptions.ofEntries (Desk.fetchValues c a) = .ok (a.merged c) ∧
        (a.merged c).mode = m := by
    intro c hsettled
    obtain ⟨hcount, hmode⟩ := FetchOptions.count_selected fun m' =>
      (a.selects_merged c m').trans (hone m')
    exact ⟨FetchOptions.ofEntries_eq_ok.mpr (reads_fetchValues hsettled hplain hcount), hmode⟩
  constructor
  · intro values c haccepted
    exact hoptions (GlobalConfig.settled_of_ofEntries haccepted)
  · intro env verbose d hdesk
    exact fetch_of_ofEntries (hoptions (openDesk_settled hdesk)).1

def fetchEverything : FetchArguments := ⟨none, none, true, none, none, none, none, none⟩

/-- A directory with a configuration that has a blank user agent and a proxy to be trimmed. -/
def configuredDirectory : Environment :=
  ⟨⟨["home".toList], [(["home".toList, "data".toList], .directory),
      (["home".toList, "data".toList, "global_config.yaml".toList],
        .file (Utf8.encode "user_agent: ' '\nproxy: ' http://h '\n"))]⟩,
    [], ⟨63839750400000000⟩, fun _ => none, []⟩

/-- What stands in a configuration is taken as it is read, but for a blank user agent. -/
theorem fetch_of_plain_fetchEverything :
    FetchOptions.ofEntries (Desk.fetchValues GlobalConfig.looseConfig fetchEverything) =
      .ok ⟨none, none, true, none, none, some "SOCKS5H://h:1080".toList, 20,
        some ⟨[], ["out".toList]⟩⟩ ∧
    ∃ d, openDesk configuredDirectory false = .ok d ∧
      d.fetch configuredDirectory fetchEverything = d.report configuredDirectory
        ⟨none, none, true, none, none, some "http://h".toList, 3,
          some ⟨[], ["configs.txt".toList]⟩⟩ := by
  have hplain : fetchEverything.Plain := ⟨rfl, rfl, rfl, rfl⟩
  have hone : ∀ m', fetchEverything.Names m' ↔ m' = .allEnabled := by
    intro m'
    cases m' <;> simp [FetchArguments.Names, fetchEverything]
  obtain ⟨hoptions, hruns⟩ := fetch_of_plain hplain hone
  have hmerged : (openDesk configuredDirectory false).toOption.map (fun d =>
      fetchEverything.merged d.config) =
        some ⟨none, none, true, none, none, some "http://h".toList, 3,
          some ⟨[], ["configs.txt".toList]⟩⟩ := by decide +kernel
  refine ⟨(hoptions GlobalConfig.ofEntries_looseValues).1, ?_⟩
  obtain ⟨d, hopen, hd⟩ := Option.map_eq_some_iff.mp hmerged
  have hdesk := toOption_eq_some.mp hopen
  exact ⟨d, hdesk, hd ▸ hruns hdesk⟩

end LinkHarvest.Command
