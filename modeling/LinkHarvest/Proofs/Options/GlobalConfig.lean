import LinkHarvest.Options.GlobalConfig
import LinkHarvest.Proofs.Fallible

/-!
# Accepted global configurations

A global configuration that is accepted keeps the rules of its options (`valid_of_ofEntries`), and
so do the defaults. A value that breaks a rule is reported under the name of its option
(`report_of_ofEntries`). Only where a path is needed a value of another kind is not reported but
ends the reading, whatever is wrong with the other options (`exists_notAPath_iff`).
-/

namespace LinkHarvest.Options

open Fallible

variable {α ε : Type} {values : List (Value × Value)} {name : Text} {v : Value} {a usual : α}
  {e : ε} {read : Value → Except ε α}

/-! ## Options -/

theorem fieldOr_of_find? (h : Value.find? values name = some v) :
    fieldOr values name usual read = read v := by
  unfold fieldOr
  rw [h]

theorem fieldOr_eq_ok {P : α → Prop} (h : fieldOr values name usual read = .ok a)
    (husual : P usual) (hread : ∀ v a, read v = .ok a → P a) : P a := by
  unfold fieldOr at h
  split at h
  · cases h
    exact husual
  · exact hread _ _ h

theorem fieldOr_eq_error :
    fieldOr values name usual read = .error e ↔
      ∃ v, Value.find? values name = some v ∧ read v = .error e := by
  unfold fieldOr
  cases Value.find? values name <;> simp

theorem problemOf_eq_nil {x : Except Fault α} : problemOf name x = [] ↔ ∃ a, x = .ok a := by
  cases x <;> simp [problemOf]

theorem mem_problemOf {read : Value → Except Fault α} {problem : Problem}
    (h : problem ∈ problemOf name (fieldOr values name usual read)) :
    problem.name = some name ∧
      ∃ v, Value.find? values name = some v ∧ read v = .error problem.fault := by
  cases hfield : fieldOr values name usual read with
  | ok a =>
    rw [hfield] at h
    cases h
  | error fault =>
    rw [hfield] at h
    obtain rfl := List.mem_singleton.mp h
    exact ⟨rfl, fieldOr_eq_error.mp hfield⟩

/-! ## Rules -/

theorem checkWorkers_eq_ok {n workers : Int} (h : checkWorkers n = .ok workers) :
    Retrieval.minWorkers ≤ workers ∧ workers ≤ Retrieval.maxWorkers := by
  unfold checkWorkers at h
  split at h
  · cases h
  · split at h
    · cases h
    · cases h
      omega

/-- An absolute URL with one of the schemes that a proxy may have. -/
def IsProxyUrl (t : Text) : Prop :=
  ∃ parts, Url.split t = .ok parts ∧ Text.lower parts.scheme ∈ proxySchemes ∧ parts.netloc ≠ []

theorem checkProxy_eq_ok {proxy checked : Text} (h : checkProxy proxy = .ok checked) :
    checked = Text.trim proxy ∧ IsProxyUrl checked := by
  unfold checkProxy at h
  split at h
  · cases h
  · rename_i parts hparts
    split at h
    · cases h
    · rename_i hform
      cases h
      simp only [Bool.or_eq_true, Bool.not_eq_eq_eq_not, Bool.not_true, not_or,
        Bool.not_eq_false, List.contains_iff_mem, List.isEmpty_iff] at hform
      exact ⟨rfl, parts, hparts, hform⟩

/-! ## Paths -/

theorem toPath_eq_error {rejection : Rejection} :
    toPath v = .error rejection ↔ (∀ t, v ≠ .text t) ∧ rejection = .notAPath v.kind := by
  unfold toPath
  split <;> simp_all [eq_comm]

theorem toOptionalPath_eq_error {rejection : Rejection} :
    toOptionalPath v = .error rejection ↔
      v ≠ .null ∧ (∀ t, v ≠ .text t) ∧ rejection = .notAPath v.kind := by
  unfold toOptionalPath
  split
  · simp
  · simp
  · simp_all [map_eq_error, toPath_eq_error]

/-- A value that is no path stands where only a path is read. -/
inductive NoPath (values : List (Value × Value)) : Prop
  | database {v : Value} (given : Value.find? values "database_path" = some v)
      (kind : ∀ t, v ≠ .text t)
  | output {v : Value} (given : Value.find? values "default_output" = some v)
      (kind : ∀ t, v ≠ .text t) (notNull : v ≠ .null)

namespace GlobalConfig

/-! ## Configurations -/

/-- The rules of a global configuration. -/
structure Valid (c : GlobalConfig) : Prop where
  workers : 1 ≤ c.defaultWorkers ∧ c.defaultWorkers ≤ 20
  timeout : c.timeout.isNonPositive = false
  proxy : ∀ proxy, c.proxy = some proxy → IsProxyUrl proxy

theorem valid_default : default.Valid where
  workers := by decide
  timeout := by decide
  proxy := nofun

theorem readWorkers_eq_ok {workers : Int} (h : readWorkers v = .ok workers) :
    1 ≤ workers ∧ workers ≤ 20 := by
  unfold readWorkers at h
  split at h
  · exact checkWorkers_eq_ok h
  · cases h

theorem readTimeout_eq_ok {timeout : Binary64} (h : readTimeout v = .ok timeout) :
    timeout.isNonPositive = false := by
  unfold readTimeout at h
  split at h
  · split at h
    · cases h
    · rename_i hpositive
      cases h
      simpa using hpositive
  · cases h

theorem readProxy_eq_ok {proxy : Option Text} (h : readProxy v = .ok proxy) :
    ∀ url, proxy = some url → IsProxyUrl url := by
  rintro url rfl
  unfold readProxy at h
  split at h
  · cases h
  · split at h
    · cases h
    · obtain ⟨checked, hchecked, hurl⟩ := map_eq_ok.mp h
      cases hurl
      exact (checkProxy_eq_ok hchecked).2

/-- **An accepted configuration keeps the rules.** -/
theorem valid_of_ofEntries {c : GlobalConfig} (h : ofEntries values = .ok c) : c.Valid := by
  unfold ofEntries at h
  obtain ⟨databasePath, -, h⟩ := bind_eq_ok.mp h
  obtain ⟨defaultOutput, -, h⟩ := bind_eq_ok.mp h
  split at h
  · rename_i hworkers _ hproxy htimeout _
    cases h
    exact {
      workers := fieldOr_eq_ok (P := fun n => 1 ≤ n ∧ n ≤ 20) hworkers
        valid_default.workers fun _ _ => readWorkers_eq_ok
      timeout := fieldOr_eq_ok (P := fun x => x.isNonPositive = false) htimeout
        valid_default.timeout fun _ _ => readTimeout_eq_ok
      proxy := fieldOr_eq_ok hproxy valid_default.proxy fun _ _ => readProxy_eq_ok }
  · cases h

/-- **A report is not empty**, and each of its problems is one of an option that is given. -/
theorem report_of_ofEntries {ps : List Problem} (h : ofEntries values = .error (.problems ps)) :
    ps ≠ [] ∧ ∀ problem ∈ ps, ∃ name v, problem.name = some name ∧
      Value.find? values name = some v := by
  unfold ofEntries at h
  rcases bind_eq_error.mp h with h | ⟨databasePath, -, h⟩
  · obtain ⟨v, -, hpath⟩ := fieldOr_eq_error.mp h
    cases (toPath_eq_error.mp hpath).2
  rcases bind_eq_error.mp h with h | ⟨defaultOutput, -, h⟩
  · obtain ⟨v, -, hpath⟩ := fieldOr_eq_error.mp h
    cases (toOptionalPath_eq_error.mp hpath).2.2
  split at h
  · cases h
  · rename_i hfailed
    cases h
    constructor
    · simp only [ne_eq, List.append_eq_nil_iff, problemOf_eq_nil]
      rintro ⟨⟨⟨⟨⟨workers, hworkers⟩, agent, hagent⟩, proxy, hproxy⟩, timeout, htimeout⟩, method,
        hmethod⟩
      exact hfailed workers agent proxy timeout method hworkers hagent hproxy htimeout hmethod
    · simp only [List.mem_append]
      rintro problem ((((h | h) | h) | h) | h) <;>
      · obtain ⟨hname, v, hv, -⟩ := mem_problemOf h
        exact ⟨_, v, hname, hv⟩

/-- **A configuration is refused without a report exactly when a path is missing.** -/
theorem exists_notAPath_iff :
    (∃ kind, ofEntries values = .error (.notAPath kind)) ↔ NoPath values := by
  constructor
  · rintro ⟨kind, h⟩
    unfold ofEntries at h
    rcases bind_eq_error.mp h with h | ⟨databasePath, -, h⟩
    · obtain ⟨v, hv, herror⟩ := fieldOr_eq_error.mp h
      exact .database hv (toPath_eq_error.mp herror).1
    · rcases bind_eq_error.mp h with h | ⟨defaultOutput, -, h⟩
      · obtain ⟨v, hv, herror⟩ := fieldOr_eq_error.mp h
        obtain ⟨hnull, hkind, -⟩ := toOptionalPath_eq_error.mp herror
        exact .output hv hkind hnull
      · split at h <;> cases h
  · rintro (⟨hv, hkind⟩ | ⟨hv, hkind, hnull⟩)
    · rename_i v
      have herror : fieldOr values "database_path" default.databasePath toPath =
          .error (.notAPath v.kind) :=
        fieldOr_eq_error.mpr ⟨v, hv, toPath_eq_error.mpr ⟨hkind, rfl⟩⟩
      exact ⟨v.kind, by rw [ofEntries, herror, error_bind]⟩
    · rename_i v
      have herror : fieldOr values "default_output" default.defaultOutput toOptionalPath =
          .error (.notAPath v.kind) :=
        fieldOr_eq_error.mpr ⟨v, hv, toOptionalPath_eq_error.mpr ⟨hnull, hkind, rfl⟩⟩
      -- the other path is read first and may be the one that is complained about
      cases hdatabase : fieldOr values "database_path" default.databasePath toPath with
      | error rejection =>
        obtain ⟨w, -, hw⟩ := fieldOr_eq_error.mp hdatabase
        obtain ⟨-, rfl⟩ := toPath_eq_error.mp hw
        exact ⟨w.kind, by rw [ofEntries, hdatabase, error_bind]⟩
      | ok databasePath =>
        exact ⟨v.kind, by simp only [ofEntries, hdatabase, herror, ok_bind, error_bind]⟩

end GlobalConfig

end LinkHarvest.Options
