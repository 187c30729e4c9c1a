import LinkHarvest.Project.Document
import LinkHarvest.Proofs.Fallible
import LinkHarvest.Proofs.Text.Utf8

/-!
# What is taken as a mapping

A document file holds a document of some kind, and only a mapping is taken. In YAML there is a gap.
An empty file holds null, so what counts as false is taken as the empty mapping; but this is done
before the kind is looked at, and every `Hollow` document comes through: a zero, `false`, an empty
text, an empty list. `readDocument_of_value` says that this is the only gap.
-/

namespace LinkHarvest.Project

open Fallible

variable {files : Files} {path : FilePath} {language : Language} {t : Text} {v : Value}
  {entries : List (Value × Value)}

/-- The document that a text holds, of whatever kind. -/
def valueOf (language : Language) (t : Text) : Except DocumentProblem Value :=
  match language with
  | .json => (Json.read t).mapError .json
  | .yaml => (Yaml.read t).mapError .yaml

/-- A document without content that is no mapping: null, false, a zero, or something empty. -/
inductive Hollow : Value → Prop
  | null : Hollow .null
  | no : Hollow (.bool false)
  | zero : Hollow (.int 0)
  | zeroNumber {x : Binary64} (h : x.isZero = true) : Hollow (.float x)
  | text : Hollow (.text [])
  | bytes : Hollow (.bytes [])
  | list : Hollow (.list [])
  | tuple : Hollow (.tuple [])
  | set : Hollow (.set [])

theorem eq_nil_of_not_isEmpty {α : Type} {l : List α} (h : (!l.isEmpty) = false) : l = [] := by
  simpa using h

theorem isTruthy_eq_false : v.isTruthy = false ↔ Hollow v ∨ v = .map [] := by
  constructor
  · intro h
    cases v with
    | null => exact .inl .null
    | bool b =>
      cases h
      exact .inl .no
    | int n =>
      obtain rfl : n = 0 := bne_eq_false_iff_eq.mp h
      exact .inl .zero
    | float x => exact .inl (.zeroNumber (by simpa [Value.isTruthy] using h))
    | text t =>
      obtain rfl := eq_nil_of_not_isEmpty h
      exact .inl .text
    | date d => cases h
    | time t => cases h
    | bytes b =>
      obtain rfl := eq_nil_of_not_isEmpty h
      exact .inl .bytes
    | list items =>
      obtain rfl := eq_nil_of_not_isEmpty h
      exact .inl .list
    | tuple items =>
      obtain rfl := eq_nil_of_not_isEmpty h
      exact .inl .tuple
    | map entries =>
      obtain rfl := eq_nil_of_not_isEmpty h
      exact .inr rfl
    | set items =>
      obtain rfl := eq_nil_of_not_isEmpty h
      exact .inl .set
  · rintro (hhollow | rfl)
    · cases hhollow with
      | zeroNumber h => simp [Value.isTruthy, h]
      | _ => rfl
    · rfl

theorem documentOf_of_value (h : valueOf language t = .ok v) :
    documentOf language t = .ok (if language = .yaml ∧ v.isTruthy = false then .map [] else v) := by
  cases language with
  | json =>
    rw [if_neg (by exact fun hyaml => nomatch hyaml.1)]
    exact h
  | yaml =>
    have hread : Yaml.read t = .ok v := mapError_eq_ok.mp h
    unfold documentOf
    dsimp only
    rw [hread]
    dsimp only
    cases htruthy : v.isTruthy <;> simp

/-- The entries of a mapping; nothing else is taken. -/
def taken (path : FilePath) : Value → Except DocumentProblem (List (Value × Value))
  | .map entries => .ok entries
  | _ => .error (.noMapping path)

theorem taken_eq_ok : taken path v = .ok entries ↔ v = .map entries := by
  cases v <;> simp [taken]

theorem taken_eq_error {problem : DocumentProblem} (h : taken path v = .error problem) :
    problem = .noMapping path := by
  unfold taken at h
  split at h
  · cases h
  · exact (Except.error.inj h).symm

theorem readDocument_eq_taken (hread : files.read path = .ok (Utf8.encode t))
    (hvalue : valueOf (languageOf path) (Text.withLineFeeds t) = .ok v) :
    readDocument files path =
      taken path (if languageOf path = .yaml ∧ v.isTruthy = false then .map [] else v) := by
  unfold readDocument
  rw [hread, mapError_ok, ok_bind, Utf8.decode_encode, mapError_ok, ok_bind,
    documentOf_of_value hvalue, ok_bind]
  rfl

/-- **A document file is taken exactly when it holds a mapping, or, in YAML, a hollow document**,
which is taken as the empty mapping; an empty file holds one, for it holds null. Whatever else a
file holds is refused for not being a mapping. -/
theorem readDocument_of_value (hread : files.read path = .ok (Utf8.encode t))
    (hvalue : valueOf (languageOf path) (Text.withLineFeeds t) = .ok v) :
    (∀ entries, readDocument files path = .ok entries ↔
      v = .map entries ∨ languageOf path = .yaml ∧ Hollow v ∧ entries = []) ∧
    (∀ problem, readDocument files path = .error problem → problem = .noMapping path ∧
      problem.message = "Configuration file must contain a mapping: ".toList ++ path.text) ∧
    (languageOf path = .yaml → t = [] → v = .null) := by
  rw [readDocument_eq_taken hread hvalue]
  refine ⟨fun entries => ?_, ?_, ?_⟩
  · rw [taken_eq_ok]
    by_cases hgap : languageOf path = .yaml ∧ v.isTruthy = false
    · rw [if_pos hgap]
      constructor
      · rintro ⟨⟩
        exact (isTruthy_eq_false.mp hgap.2).elim (fun h => .inr ⟨hgap.1, h, rfl⟩) .inl
      · rintro (rfl | ⟨-, -, rfl⟩)
        · rw [eq_nil_of_not_isEmpty hgap.2]
        · rfl
    · rw [if_neg hgap]
      exact ⟨.inl, fun h => h.resolve_right fun ⟨hyaml, hhollow, _⟩ =>
        hgap ⟨hyaml, isTruthy_eq_false.mpr (.inl hhollow)⟩⟩
  · intro problem hproblem
    obtain rfl := taken_eq_error hproblem
    exact ⟨rfl, rfl⟩
  · rintro hyaml rfl
    have hnull : valueOf .yaml (Text.withLineFeeds []) = .ok .null := rfl
    rw [hyaml, hnull] at hvalue
    exact (Except.ok.inj hvalue).symm

def isEmptyList : Value → Bool
  | .list [] => true
  | _ => false

theorem valueOf_emptyList (h : (valueOf language t).toOption.any isEmptyList = true) :
    valueOf language t = .ok (.list []) := by
  cases hvalue : valueOf language t with
  | error problem =>
    rw [hvalue] at h
    cases h
  | ok v =>
    rw [hvalue] at h
    change isEmptyList v = true at h
    unfold isEmptyList at h
    split at h
    · rfl
    · cases h

def fileNamed (name : Text) (content : Text) : Files :=
  ⟨["h".toList], [(["h".toList, name], .file (Utf8.encode content))]⟩

/-- An empty list is refused in JSON and taken as the empty mapping in YAML. -/
theorem readDocument_of_emptyList :
    readDocument (fileNamed "c.yml" "[]") ⟨[], ["c.yml".toList]⟩ = .ok [] ∧
    readDocument (fileNamed "c.json" "[]") ⟨[], ["c.json".toList]⟩ =
      .error (.noMapping ⟨[], ["c.json".toList]⟩) := by
  constructor
  · have hread : (fileNamed "c.yml" "[]").read ⟨[], ["c.yml".toList]⟩ =
        .ok (Utf8.encode "[]") := by decide +kernel
    have hvalue : valueOf .yaml (Text.withLineFeeds "[]") = .ok (.list []) :=
      valueOf_emptyList (by decide +kernel)
    exact ((readDocument_of_value hread hvalue).1 []).mpr (.inr ⟨by decide, .list, rfl⟩)
  · have hread : (fileNamed "c.json" "[]").read ⟨[], ["c.json".toList]⟩ =
        .ok (Utf8.encode "[]") := by decide +kernel
    have hvalue : valueOf .json (Text.withLineFeeds "[]") = .ok (.list []) :=
      valueOf_emptyList (by decide +kernel)
    obtain ⟨htaken, hrefused, -⟩ := readDocument_of_value hread hvalue
    cases hdocument : readDocument (fileNamed "c.json" "[]") ⟨[], ["c.json".toList]⟩ with
    | ok entries =>
      rcases (htaken entries).mp hdocument with hmap | ⟨hyaml, -⟩
      · cases hmap
      · exact absurd hyaml (by decide)
    | error problem => rw [(hrefused problem hdocument).1]

end LinkHarvest.Project
