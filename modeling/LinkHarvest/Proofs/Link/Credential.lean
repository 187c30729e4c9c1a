import LinkHarvest.Link.Uri
import LinkHarvest.Proofs.Text.Cut
import LinkHarvest.Proofs.Text.Percent
import LinkHarvest.Proofs.Url.Split

/-!
# Credentials

What may stand before the host of a URI-shaped link, for each form of a credential (`Credential`),
and how it is written: each text escaped, with a colon between the two of a pair. It is read back as
the credential that was written (`credentialDetails_userInfo`). The texts may hold any characters,
except that no colon stands in the first one of a pair; those of the second one are escaped.
-/

namespace LinkHarvest.Link

/-- A credential of the given form, which is there unless the form allows it to be missing. -/
inductive Credential : CredentialForm → Type
  | secret (name t : Text) (present : t ≠ []) : Credential (.secret name)
  | userId (uuid : Text) (password : Option Text) (plain : ':' ∉ uuid)
      (full : ∀ p ∈ password, p ≠ []) (present : uuid ≠ [] ∨ password ≠ none) :
      Credential .userId
  | anonymous : Credential .account
  | account (username password : Text) (plain : ':' ∉ username) : Credential .account

namespace Credential

variable {form : CredentialForm}

/-- Two texts with a colon between them, each escaped. -/
def escapedPair (first second : Text) : Text :=
  Percent.component first ++ ':' :: Percent.component second

/-- The user information that writes the credential. -/
def userInfo : Credential form → Option Text
  | .secret _ t _ => some (Percent.component t)
  | .userId uuid none _ _ _ => some (Percent.component uuid)
  | .userId uuid (some password) _ _ _ => some (escapedPair uuid password)
  | .anonymous => none
  | .account username password _ => some (escapedPair username password)

/-- The details that state the credential. -/
def details : Credential form → Details
  | .secret name t _ => [(name, Detail.ofText t)]
  | .userId uuid none _ _ _ => [("uuid", Detail.ofText uuid)]
  | .userId uuid (some password) _ _ _ =>
    [("uuid", Detail.ofText uuid), ("password", Detail.ofText password)]
  | .anonymous => []
  | .account username password _ =>
    [("username", Detail.ofText username), ("password", Detail.ofText password)]

end Credential

/-- The attributes that credentials of a form may set. -/
def CredentialForm.attributes : CredentialForm → List Text
  | .secret name => [name]
  | .userId => ["uuid", "password"]
  | .account => ["username", "password"]

namespace Credential

variable {form : CredentialForm}

theorem attributes_sublist (c : Credential form) :
    (c.details.map Prod.fst).Sublist form.attributes := by
  cases c with
  | secret name t _ => exact .refl _
  | userId uuid password _ _ _ =>
    cases password with
    | none => exact .cons_cons _ (List.nil_sublist _)
    | some password => exact .refl _
  | anonymous => exact List.nil_sublist _
  | account username password _ => exact .refl _

/-! ## Characters -/

theorem isUserInfoChar_of_mem_component {c : Char} {t : Text} (h : c ∈ Percent.component t) :
    Url.isUserInfoChar c = true := by
  rcases Percent.mem_component h with rfl | h
  · decide
  · exact Url.isUserInfoChar_of_class h (Percent.visible_of_isUnreserved h)
      (Text.forall_mem_of_all (by decide))

theorem isUserInfoChar_userInfo (c : Credential form) {u : Text} (h : u ∈ c.userInfo) :
    ∀ x ∈ u, Url.isUserInfoChar x = true := by
  have hpair (first second : Text) :
      ∀ x ∈ escapedPair first second, Url.isUserInfoChar x = true := by
    intro x hx
    rcases List.mem_append.mp hx with hx | hx
    · exact isUserInfoChar_of_mem_component hx
    · rcases List.mem_cons.mp hx with rfl | hx
      · decide
      · exact isUserInfoChar_of_mem_component hx
  cases c with
  | secret name t _ =>
    cases h
    exact fun x hx => isUserInfoChar_of_mem_component hx
  | userId uuid password _ _ _ =>
    cases password with
    | none =>
      cases h
      exact fun x hx => isUserInfoChar_of_mem_component hx
    | some password =>
      cases h
      exact hpair uuid password
  | anonymous => cases h
  | account username password _ =>
    cases h
    exact hpair username password

/-! ## Reading -/

theorem spelled_escapedPair (first second : Text) :
    Percent.Spelled (escapedPair first second) (first ++ ':' :: second) :=
  (Percent.spelled_component first).append (.plain (by decide) (Percent.spelled_component second))

theorem component_ne_nil {t : Text} (h : t ≠ []) : Percent.component t ≠ [] := by
  intro hnil
  have hread := Percent.unescape_component t
  rw [hnil] at hread
  exact h hread.symm

theorem accountDetails_pair {username : Text} (h : ':' ∉ username) (password : Text) :
    CredentialForm.accountDetails (username ++ ':' :: password) =
      ([("username", Detail.ofText username), ("password", Detail.ofText password)] : Details) := by
  have hcolon : (username ++ ':' :: password).contains ':' = true := by simp
  unfold CredentialForm.accountDetails
  dsimp only
  rw [if_pos hcolon, Text.before_append_cons h, Text.after_append_cons h]

theorem userIdDetails_alone {uuid : Text} (h : ':' ∉ uuid) :
    CredentialForm.userIdDetails uuid = ([("uuid", Detail.ofText uuid)] : Details) := by
  rw [CredentialForm.userIdDetails, Text.before_of_not_mem h, Text.after_of_not_mem h]
  rfl

theorem userIdDetails_pair {uuid password : Text} (h : ':' ∉ uuid) (hfull : password ≠ []) :
    CredentialForm.userIdDetails (uuid ++ ':' :: password) =
      ([("uuid", Detail.ofText uuid), ("password", Detail.ofText password)] : Details) := by
  have hempty : password.isEmpty = false := by simpa using hfull
  rw [CredentialForm.userIdDetails, Text.before_append_cons h, Text.after_append_cons h,
    hempty]
  rfl

theorem details_userInfo (c : Credential form) {u : Text} (h : c.userInfo = some u) :
    u ≠ [] ∧ form.details (Percent.unescape u) = c.details := by
  have hpair (first second : Text) : escapedPair first second ≠ [] := by simp [escapedPair]
  cases c with
  | secret name t present =>
    cases h
    refine ⟨component_ne_nil present, ?_⟩
    rw [Percent.unescape_component]
    rfl
  | userId uuid password plain full present =>
    cases password with
    | none =>
      cases h
      refine ⟨component_ne_nil (present.resolve_right (by simp)), ?_⟩
      rw [Percent.unescape_component]
      exact userIdDetails_alone plain
    | some password =>
      cases h
      refine ⟨hpair uuid password, ?_⟩
      rw [Percent.unescape_of_spelled (spelled_escapedPair uuid password)]
      exact userIdDetails_pair plain (full password rfl)
  | anonymous => cases h
  | account username password plain =>
    cases h
    refine ⟨hpair username password, ?_⟩
    rw [Percent.unescape_of_spelled (spelled_escapedPair username password)]
    exact accountDetails_pair plain password

theorem required?_eq_none {c : Credential form} (h : c.userInfo = none) :
    form.required? = none ∧ c.details = [] := by
  cases c with
  | secret name t _ => cases h
  | userId uuid password _ _ _ => cases password <;> cases h
  | anonymous => exact ⟨rfl, rfl⟩
  | account username password _ => cases h

/-- **A written credential is read back.** -/
theorem credentialDetails_userInfo (g : UriGrammar) (c : Credential g.credential) :
    g.credentialDetails (c.userInfo.getD []) = .ok c.details := by
  cases huser : c.userInfo with
  | none =>
    obtain ⟨hrequired, hdetails⟩ := required?_eq_none huser
    rw [UriGrammar.credentialDetails, hrequired, hdetails]
    rfl
  | some u =>
    obtain ⟨hne, hdetails⟩ := c.details_userInfo huser
    rw [UriGrammar.credentialDetails, Option.getD_some, if_neg (by simpa using hne), hdetails]

end Credential

end LinkHarvest.Link
