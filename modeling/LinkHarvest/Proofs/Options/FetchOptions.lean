import LinkHarvest.Options.FetchOptions
import LinkHarvest.Proofs.Data.Value
import LinkHarvest.Proofs.Options.GlobalConfig
import LinkHarvest.Proofs.Text.Trim

/-!
# Accepted options of a run

Values make up options when each of them can be read and exactly one source is selected by what was
read (`ofEntries_eq_ok`). What a value selects can be told before it is read (`Chooses`): null, zero,
white space and an empty path select nothing. So values that choose no source, or several, are never
accepted, and accepted options are `WellFormed`.
-/

namespace LinkHarvest.Options

open Fallible

variable {α ε : Type} {values : List (Value × Value)} {name : Text} {v : Value}

theorem isSome_fieldOr {a : Option α} {read : Value → Except ε (Option α)} {P : Value → Prop}
    (h : fieldOr values name none read = .ok a)
    (hread : ∀ v a, read v = .ok a → (a.isSome = true ↔ P v)) :
    a.isSome = true ↔ ∃ v, Value.find? values name = some v ∧ P v := by
  unfold fieldOr at h
  cases hfind : Value.find? values name with
  | none =>
    rw [hfind] at h
    cases h
    simp
  | some v =>
    rw [hfind] at h
    simpa using hread v a h

theorem toOptionalPath_eq_ok {path : Option FilePath} (h : toOptionalPath v = .ok path) :
    path.isSome = true ↔ v ≠ .null ∧ v ≠ .text [] := by
  unfold toOptionalPath at h
  split at h
  · cases h
    simp
  · cases h
    simp
  · rename_i hnull hempty
    obtain ⟨p, -, rfl⟩ := map_eq_ok.mp h
    exact ⟨fun _ => ⟨hnull, hempty⟩, fun _ => rfl⟩

namespace FetchOptions

/-! ## Single values -/

/-- A number zero, or the text of one, which stands for no subscription. -/
def IsZero (v : Value) : Prop := v.asInt? = some 0 ∨ v = .ofText "0"

/-- A text of white space only. -/
def IsBlank (v : Value) : Prop := ∃ t, v = .ofText t ∧ ∀ c ∈ t, Text.isBlank c = true

theorem isNoId_iff : isNoId v = true ↔ IsZero v := by
  rw [isNoId, IsZero, Bool.or_eq_true, beq_iff_eq]
  exact or_congr_right Value.sameKey_text

theorem readId_eq_ok {id : Option Int} (h : readId v = .ok id) :
    id.isSome = true ↔ v ≠ .null ∧ ¬IsZero v := by
  rw [← isNoId_iff]
  unfold readId at h
  split at h
  · rename_i hzero
    cases h
    simp [hzero]
  · rename_i hzero
    split at h
    · cases h
      simp
    · rename_i hnull
      obtain ⟨n, -, rfl⟩ := map_eq_ok.mp h
      exact ⟨fun _ => ⟨hnull, hzero⟩, fun _ => rfl⟩

theorem blankAsNull_of_isBlank (h : IsBlank v) : blankAsNull v = .null := by
  obtain ⟨t, rfl, hblank⟩ := h
  unfold blankAsNull Value.ofText
  dsimp only
  rw [LooseText.toText?_ofText]
  exact if_pos (List.all_eq_true.mpr hblank)

theorem blankAsNull_of_not_isBlank (h : ¬IsBlank v) : blankAsNull v = v := by
  unfold blankAsNull
  split
  · rename_i t
    refine if_neg fun hblank => h ?_
    cases htext : t.toText? with
    | none => simp [htext] at hblank
    | some u =>
      refine ⟨u, congrArg Value.text (LooseText.eq_ofText htext), ?_⟩
      rw [htext] at hblank
      exact List.all_eq_true.mp hblank
  · rfl

theorem readText_eq_ok {text : Option Text} (h : readText v = .ok text) :
    (text.isSome = true ↔ v ≠ .null ∧ ¬IsBlank v) ∧
      ∀ t, text = some t → (∃ c ∈ t, Text.isBlank c = false) ∨ ∃ b, v = .bytes b := by
  unfold readText at h
  by_cases hblank : IsBlank v
  · rw [blankAsNull_of_isBlank hblank] at h
    cases h
    simp [hblank]
  rw [blankAsNull_of_not_isBlank hblank] at h
  cases v with
  | null =>
    cases h
    simp
  | text t =>
    cases h
    refine ⟨by simp [hblank], ?_⟩
    rintro _ ⟨⟩
    cases htext : t.toText? with
    | none => exact .inl ⟨_, LooseText.replacement_mem htext, by decide⟩
    | some u =>
      obtain rfl := LooseText.eq_ofText htext
      by_contra hnone
      refine hblank ⟨u, rfl, fun c hc => ?_⟩
      by_contra hvisible
      refine hnone (.inl ⟨c, ?_, by simpa using hvisible⟩)
      rwa [LooseText.toText_ofText]
  | bytes b =>
    obtain ⟨t, -, rfl⟩ := map_eq_ok.mp h
    exact ⟨by simp [hblank], fun _ _ => .inr ⟨b, rfl⟩⟩
  | _ => cases h

theorem readProxy_eq_ok {proxy : Option Text} (h : readProxy v = .ok proxy) :
    ∀ url, proxy = some url → Text.trim url = url ∧ IsProxyUrl url := by
  rintro url rfl
  unfold readProxy at h
  split at h
  · obtain ⟨checked, hchecked, hurl⟩ := map_eq_ok.mp h
    cases hurl
    obtain ⟨rfl, hform⟩ := checkProxy_eq_ok hchecked
    exact ⟨Text.trim_trim _, hform⟩
  · cases h
  · cases h

theorem readWorkers_eq_ok {workers : Int} (h : readWorkers v = .ok workers) :
    1 ≤ workers ∧ workers ≤ 20 := by
  unfold readWorkers at h
  split at h
  · exact checkWorkers_eq_ok h
  · cases h

/-! ## Selections -/

/-- The options name a source of a mode. -/
def Selects (o : FetchOptions) : Mode → Prop
  | .byId => o.subscription.isSome = true
  | .byUrl => o.url.isSome = true
  | .allEnabled => o.fetchAll = true
  | .byFile => o.file.isSome = true

/-- The values choose a source of a mode: they give its option a value that stands for something. -/
def Chooses (values : List (Value × Value)) : Mode → Prop
  | .byId => ∃ v, Value.find? values "subscription_id" = some v ∧ v ≠ .null ∧ ¬IsZero v
  | .byUrl => ∃ v, Value.find? values "url" = some v ∧ v ≠ .null ∧ ¬IsBlank v
  | .allEnabled => ∃ v, Value.find? values "fetch_all" = some v ∧ toBoolean v = .ok true
  | .byFile => ∃ v, Value.find? values "file_input" = some v ∧ v ≠ .null ∧ v ≠ .text []

theorem selects_iff {o : FetchOptions} (h : o.selected.count true = 1) (m : Mode) :
    o.Selects m ↔ m = o.mode := by
  unfold selected at h
  unfold mode
  cases m <;> unfold Selects <;> revert h <;>
    cases o.subscription.isSome <;> cases o.url.isSome <;> cases o.fetchAll <;>
      cases o.file.isSome <;> decide

theorem count_selected {o : FetchOptions} {m : Mode} (h : ∀ m', o.Selects m' ↔ m' = m) :
    o.selected.count true = 1 ∧ o.mode = m := by
  have hid := h .byId
  have hurl := h .byUrl
  have hall := h .allEnabled
  have hfile := h .byFile
  clear h
  unfold Selects at hid hurl hall hfile
  unfold selected mode
  revert hid hurl hall hfile
  cases m <;> cases o.subscription.isSome <;> cases o.url.isSome <;> cases o.fetchAll <;>
    cases o.file.isSome <;> decide

theorem checkSelection_eq_ok {o options : FetchOptions} :
    checkSelection o = .ok options ↔ o.selected.count true = 1 ∧ options = o := by
  unfold checkSelection
  split
  · rename_i hcount
    simp [hcount]
  · rename_i hcount
    simp [hcount, eq_comm]
  · rename_i hcount
    exact ⟨nofun, fun h => absurd h.1 hcount⟩

/-! ## All values -/

/-- Every option has what its value is read as, and one source is selected. -/
structure Reads (values : List (Value × Value)) (o : FetchOptions) : Prop where
  subscription : fieldOr values "subscription_id" none readId = .ok o.subscription
  url : fieldOr values "url" none readText = .ok o.url
  fetchAll : fieldOr values "fetch_all" false toBoolean = .ok o.fetchAll
  file : fieldOr values "file_input" none toOptionalPath = .ok o.file
  agent : fieldOr values "user_agent" none readText = .ok o.agent
  proxy : fieldOr values "proxy" none readProxy = .ok o.proxy
  workers : fieldOr values "workers" defaultWorkers readWorkers = .ok o.workers
  output : fieldOr values "output_path" none toOptionalPath = .ok o.output
  one : o.selected.count true = 1

theorem ofEntries_eq_ok {o : FetchOptions} : ofEntries values = .ok o ↔ Reads values o := by
  constructor
  · intro h
    unfold ofEntries at h
    obtain ⟨file, hfile, h⟩ := bind_eq_ok.mp h
    obtain ⟨output, houtput, h⟩ := bind_eq_ok.mp h
    split at h
    · rename_i hsubscription hurl hfetchAll hagent hproxy hworkers
      obtain ⟨hone, rfl⟩ := checkSelection_eq_ok.mp h
      exact ⟨hsubscription, hurl, hfetchAll, hfile, hagent, hproxy, hworkers, houtput, hone⟩
    · cases h
  · intro h
    unfold ofEntries
    rw [h.subscription, h.url, h.fetchAll, h.file, h.agent, h.proxy, h.workers, h.output]
    exact checkSelection_eq_ok.mpr ⟨h.one, rfl⟩

theorem Reads.chooses {o : FetchOptions} (h : Reads values o) (m : Mode) :
    Chooses values m ↔ o.Selects m := by
  cases m with
  | byId => exact (isSome_fieldOr h.subscription fun _ _ => readId_eq_ok).symm
  | byUrl => exact (isSome_fieldOr h.url fun _ _ hread => (readText_eq_ok hread).1).symm
  | byFile => exact (isSome_fieldOr h.file fun _ _ => toOptionalPath_eq_ok).symm
  | allEnabled =>
    have hread := h.fetchAll
    unfold fieldOr at hread
    unfold Chooses Selects
    cases hfind : Value.find? values "fetch_all" with
    | none =>
      rw [hfind] at hread
      simp [(Except.ok.inj hread).symm]
    | some v =>
      rw [hfind] at hread
      simp [hread]

/-- The rules of the options of a run. A text that was given as bytes, which JSON does not have, may
be blank. -/
structure WellFormed (values : List (Value × Value)) (o : FetchOptions) : Prop where
  selects : ∀ m, o.Selects m ↔ m = o.mode
  chooses : ∀ m, Chooses values m ↔ m = o.mode
  workers : 1 ≤ o.workers ∧ o.workers ≤ 20
  url : ∀ url, o.url = some url → (∃ c ∈ url, Text.isBlank c = false) ∨
    ∃ b, Value.find? values "url" = some (.bytes b)
  agent : ∀ agent, o.agent = some agent → (∃ c ∈ agent, Text.isBlank c = false) ∨
    ∃ b, Value.find? values "user_agent" = some (.bytes b)
  proxy : ∀ proxy, o.proxy = some proxy → Text.trim proxy = proxy ∧ IsProxyUrl proxy

theorem visible_of_fieldOr {text : Option Text} (h : fieldOr values name none readText = .ok text)
    (t : Text) (ht : text = some t) :
    (∃ c ∈ t, Text.isBlank c = false) ∨ ∃ b, Value.find? values name = some (.bytes b) := by
  unfold fieldOr at h
  cases hfind : Value.find? values name with
  | none =>
    rw [hfind] at h
    cases h
    cases ht
  | some v =>
    rw [hfind] at h
    rcases (readText_eq_ok h).2 t ht with hvisible | ⟨b, rfl⟩
    · exact .inl hvisible
    · exact .inr ⟨b, rfl⟩

/-- **Accepted options are well formed.** -/
theorem wellFormed_of_ofEntries {o : FetchOptions} (h : ofEntries values = .ok o) :
    WellFormed values o := by
  have hreads := ofEntries_eq_ok.mp h
  exact {
    selects := selects_iff hreads.one
    chooses := fun m => (hreads.chooses m).trans (selects_iff hreads.one m)
    workers := fieldOr_eq_ok (P := fun n => 1 ≤ n ∧ n ≤ 20) hreads.workers (by decide)
      fun _ _ => readWorkers_eq_ok
    url := visible_of_fieldOr hreads.url
    agent := visible_of_fieldOr hreads.agent
    proxy := fieldOr_eq_ok hreads.proxy nofun fun _ _ => readProxy_eq_ok }

end FetchOptions

end LinkHarvest.Options
