import LinkHarvest.Proofs.Text.Trim
import LinkHarvest.Retrieval.SourceUrl

/-!
# URLs that pass the check

A source is named by an absolute URL (`IsAbsolute`). The check takes white space off a URL, and
passes what is left when that is absolute (`checkUrl_eq_ok`).
-/

namespace LinkHarvest.Retrieval

variable {url checked : Text}

/-- A URL that can be split, with a scheme and a network location. -/
def IsAbsolute (url : Text) : Prop :=
  ∃ parts, Url.split url = .ok parts ∧ parts.scheme ≠ [] ∧ parts.netloc ≠ []

theorem checkUrl_eq_ok :
    checkUrl url = .ok checked ↔ IsAbsolute (Text.trim url) ∧ checked = Text.trim url := by
  unfold checkUrl IsAbsolute
  dsimp only
  cases Url.split (Text.trim url) with
  | error p => simp
  | ok parts =>
    by_cases hscheme : parts.scheme = []
    · simp [hscheme]
    by_cases hnetloc : parts.netloc = []
    · simp [hnetloc]
    have hpassed : ¬ (parts.scheme.isEmpty || parts.netloc.isEmpty) = true := by
      simp [hscheme, hnetloc]
    dsimp only
    rw [if_neg hpassed]
    constructor
    · intro h
      exact ⟨⟨parts, rfl, hscheme, hnetloc⟩, (Except.ok.inj h).symm⟩
    · rintro ⟨-, rfl⟩
      rfl

theorem checkUrl_of_eq_ok (h : checkUrl url = .ok checked) : checkUrl checked = .ok checked := by
  obtain ⟨habsolute, rfl⟩ := checkUrl_eq_ok.mp h
  rw [checkUrl_eq_ok, Text.trim_trim]
  exact ⟨habsolute, rfl⟩

theorem checkUrl_eq_error {p : Problem} (h : checkUrl url = .error p) :
    ∃ fault, p = .invalidUrl url fault := by
  unfold checkUrl at h
  dsimp only at h
  split at h
  · exact ⟨_, (Except.error.inj h).symm⟩
  · split at h
    · exact ⟨_, (Except.error.inj h).symm⟩
    · cases h

end LinkHarvest.Retrieval
