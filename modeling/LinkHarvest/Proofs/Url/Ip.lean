import LinkHarvest.Proofs.Number.Numeral
import LinkHarvest.Proofs.Text.Cut
import LinkHarvest.Proofs.Text.Visible
import LinkHarvest.Url.Ip

/-!
# The letter case of addresses

Whether a text is an address does not depend on its letter case (`isGroups_toLower`): lower-casing
its characters leaves the digits and both delimiters alone and takes hexadecimal digits to
hexadecimal digits, so that it goes through every step of the check. An address without a zone
consists of these characters only (`isAddressChar_of_isGroups`).
-/

namespace LinkHarvest.Ip

variable {t : Text} {c d : Char} {parts groups : List Text}

/-! ## Characters -/

/-- A character of an address: a hexadecimal digit or one of the two delimiters. -/
def isAddressChar (c : Char) : Bool := (Text.hexDigit? c).isSome || c == ':' || c == '.'

theorem isSome_hexDigit?_iff : (Text.hexDigit? c).isSome = true ↔
    (48 ≤ c.toNat ∧ c.toNat ≤ 57) ∨ (97 ≤ c.toNat ∧ c.toNat ≤ 102) ∨
      (65 ≤ c.toNat ∧ c.toNat ≤ 70) := by
  unfold Text.hexDigit?
  simp only [Text.le_iff_toNat, Char.reduceToNat]
  split <;> rename_i hdigit
  · simp [hdigit]
  · split <;> rename_i hsmall
    · simp [hsmall]
    · split <;> rename_i hcapital <;> simp [hdigit, hsmall, hcapital]

theorem isSome_hexDigit?_toLower (c : Char) :
    (Text.hexDigit? c.toLower).isSome = (Text.hexDigit? c).isSome := by
  rcases Text.toLower_eq_or_isUpper c with hsame | hupper
  · rw [hsame]
  · have hcode := Text.toNat_toLower hupper
    simp only [Text.isUpper_iff, Text.le_iff_toNat, Char.reduceToNat] at hupper
    rw [Bool.eq_iff_iff, isSome_hexDigit?_iff, isSome_hexDigit?_iff, hcode]
    omega

theorem toLower_eq_iff (h : d.toNat < 65) : c.toLower = d ↔ c = d := by
  refine ⟨Text.eq_of_toLower (by omega), ?_⟩
  rintro rfl
  refine (Text.toLower_eq_or_isUpper c).resolve_right fun hupper => ?_
  simp only [Text.isUpper_iff, Text.le_iff_toNat, Char.reduceToNat] at hupper
  omega

theorem mem_map_toLower (h : d.toNat < 65) : d ∈ t.map Char.toLower ↔ d ∈ t := by
  simp only [List.mem_map, toLower_eq_iff h, exists_eq_right]

theorem isDigit_toLower (c : Char) : c.toLower.isDigit = c.isDigit := by
  rcases Text.toLower_eq_or_isUpper c with hsame | hupper
  · rw [hsame]
  · have hcode := Text.toNat_toLower hupper
    simp only [Text.isUpper_iff, Text.le_iff_toNat, Char.reduceToNat] at hupper
    rw [Bool.eq_iff_iff, Text.isDigit_iff, Text.isDigit_iff]
    simp only [Text.le_iff_toNat, Char.reduceToNat]
    omega

theorem isSome_hexDigit?_of_isDigit (h : c.isDigit = true) : (Text.hexDigit? c).isSome = true := by
  simp only [Text.isDigit_iff, Text.le_iff_toNat, Char.reduceToNat] at h
  exact isSome_hexDigit?_iff.mpr (.inl h)

/-! ## Version 4 -/

theorem isDigit_of_isOctet (h : isOctet t = true) : ∀ c ∈ t, c.isDigit = true := by
  cases t with
  | nil => cases h
  | cons c t =>
    simp only [isOctet, Bool.and_eq_true] at h
    exact List.all_eq_true.mp h.1.1.1

theorem map_toLower_of_isDigit (h : ∀ c ∈ t, c.isDigit = true) : t.map Char.toLower = t := by
  refine (List.map_congr_left fun c hc => ?_).trans (List.map_id t)
  have hdigit := h c hc
  simp only [Text.isDigit_iff, Text.le_iff_toNat, Char.reduceToNat] at hdigit
  exact (toLower_eq_iff (d := c) (by omega)).mpr rfl

theorem isOctet_toLower (t : Text) : isOctet (t.map Char.toLower) = isOctet t := by
  by_cases h : ∀ c ∈ t, c.isDigit = true
  · rw [map_toLower_of_isDigit h]
  · have hplain : isOctet t = false := by
      rw [← Bool.not_eq_true]
      exact mt isDigit_of_isOctet h
    have hlower : isOctet (t.map Char.toLower) = false := by
      rw [← Bool.not_eq_true]
      refine mt isDigit_of_isOctet fun hmap => h fun c hc => ?_
      rw [← isDigit_toLower]
      exact hmap _ (List.mem_map_of_mem hc)
    rw [hplain, hlower]

theorem isVersion4_toLower (t : Text) : isVersion4 (t.map Char.toLower) = isVersion4 t := by
  unfold isVersion4
  rw [Text.split_map fun c => toLower_eq_iff (by decide)]
  simp only [List.length_map, List.all_map]
  congr 2
  exact funext isOctet_toLower

theorem isDigit_of_isVersion4 (h : isVersion4 t = true) (hc : c ∈ t) :
    c.isDigit = true ∨ c = '.' := by
  by_cases hdot : c = '.'
  · exact .inr hdot
  · obtain ⟨octet, hoctet, hmem⟩ := Text.exists_mem_split hc hdot
    rw [isVersion4, Bool.and_eq_true] at h
    exact .inl (isDigit_of_isOctet (List.all_eq_true.mp h.2 octet hoctet) c hmem)

/-! ## Version 6 -/

theorem isGroup_toLower (t : Text) : isGroup (t.map Char.toLower) = isGroup t := by
  simp only [isGroup, List.isEmpty_map, List.length_map, List.all_map, Function.comp_def,
    isSome_hexDigit?_toLower]

theorem expandedGroups?_toLower (parts : List Text) :
    expandedGroups? (parts.map (List.map Char.toLower)) =
      (expandedGroups? parts).map (List.map (List.map Char.toLower)) := by
  have hlast : (parts.map (List.map Char.toLower)).getLastD [] =
      (parts.getLastD []).map Char.toLower := by
    rw [List.getLastD_eq_getLast?, List.getLast?_map, List.getLastD_eq_getLast?]
    cases parts.getLast? <;> rfl
  have hdot : ((parts.getLastD []).map Char.toLower).contains '.' =
      (parts.getLastD []).contains '.' := by
    rw [Bool.eq_iff_iff, List.contains_iff_mem, List.contains_iff_mem]
    exact mem_map_toLower (by decide)
  unfold expandedGroups?
  dsimp only
  rw [hlast, hdot, isVersion4_toLower]
  split
  · split
    · rw [Option.map_some, List.map_append, List.map_dropLast]
      rfl
    · rfl
  · rfl

theorem isShortened_toLower (before after : List Text) :
    isShortened (before.map (List.map Char.toLower)) (after.map (List.map Char.toLower)) =
      isShortened before after := by
  have hempty : ∀ groups : List Text,
      (groups.map (List.map Char.toLower) = [[]]) = (groups = [[]]) := by
    intro groups
    simp [List.map_eq_cons_iff]
  have hif : ∀ groups : List Text,
      (if groups = [[]] then [] else groups.map (List.map Char.toLower)) =
        (if groups = [[]] then [] else groups).map (List.map Char.toLower) := by
    intro groups
    split <;> rfl
  unfold isShortened
  simp only [hempty, hif, List.length_map, List.all_map]
  congr 3 <;> exact funext isGroup_toLower

/-- Whether the expanded groups of an address are in order: with one run of them left out, or all
eight of them. -/
def inOrder (first : Text) (inner : List Text) : Bool :=
  if 8 < inner.length then false
  else
    let before := inner.dropLast.takeWhile (!·.isEmpty)
    match inner.drop before.length with
    | [] :: after@(_ :: _) => isShortened (first :: before) after
    | _ => inner.length == 7 && (first :: inner).all isGroup

theorem isGroups_eq (t : Text) : isGroups t =
    if (Text.split ':' t).length < 3 then false
    else
      match expandedGroups? (Text.split ':' t) with
      | some (first :: inner) => inOrder first inner
      | _ => false := by
  unfold isGroups
  dsimp only
  split
  · rfl
  · cases expandedGroups? (Text.split ':' t) with
    | none => rfl
    | some groups => cases groups <;> rfl

theorem inOrder_toLower (first : Text) (inner : List Text) :
    inOrder (first.map Char.toLower) (inner.map (List.map Char.toLower)) = inOrder first inner := by
  have hfilled : (fun g : Text => !g.isEmpty) ∘ List.map Char.toLower = fun g => !g.isEmpty :=
    funext fun g => by simp
  have hall : (first.map Char.toLower :: inner.map (List.map Char.toLower)).all isGroup =
      (first :: inner).all isGroup := by
    rw [← List.map_cons, List.all_map]
    exact congrArg _ (funext isGroup_toLower)
  unfold inOrder
  dsimp only
  rw [List.length_map, ← List.map_dropLast, List.takeWhile_map, hfilled, List.length_map,
    ← List.map_drop, hall, ← List.map_cons]
  split
  · rfl
  · cases inner.drop (inner.dropLast.takeWhile fun g => !g.isEmpty).length with
    | nil => rfl
    | cons group after =>
      cases group with
      | cons c group => rfl
      | nil =>
        cases after with
        | nil => rfl
        | cons next after => exact isShortened_toLower _ (next :: after)

/-- **The letter case of an address does not matter.** -/
theorem isGroups_toLower (t : Text) : isGroups (t.map Char.toLower) = isGroups t := by
  rw [isGroups_eq, isGroups_eq, Text.split_map fun c => toLower_eq_iff (by decide),
    List.length_map, expandedGroups?_toLower]
  split
  · rfl
  · cases expandedGroups? (Text.split ':' t) with
    | none => rfl
    | some groups =>
      cases groups with
      | nil => rfl
      | cons first inner => exact inOrder_toLower first inner

/-! ### The characters of an address -/

theorem mem_expandedGroups? (h : expandedGroups? parts = some groups) {p : Text}
    (hp : p ∈ parts) : p ∈ groups ∨ isVersion4 p = true := by
  unfold expandedGroups? at h
  dsimp only at h
  split at h
  · split at h
    · rename_i hversion
      cases h
      have hne : parts ≠ [] := List.ne_nil_of_mem hp
      rw [← List.dropLast_append_getLast hne] at hp
      rcases List.mem_append.mp hp with hp | hp
      · exact .inl (List.mem_append_left _ hp)
      · rw [List.getLastD_eq_getLast?, List.getLast?_eq_some_getLast hne,
          Option.getD_some] at hversion
        exact .inr (List.mem_singleton.mp hp ▸ hversion)
    · cases h
  · cases h
    exact .inl hp

theorem isGroup_of_isShortened {before after : List Text} (h : isShortened before after = true)
    {p : Text} (hp : p ∈ before ∨ p ∈ after) : p = [] ∨ isGroup p = true := by
  have hside : ∀ groups : List Text, (if groups = [[]] then [] else groups).all isGroup = true →
      p ∈ groups → p = [] ∨ isGroup p = true := by
    intro groups hall hmem
    split at hall
    · rename_i hempty
      exact .inl (List.mem_singleton.mp (hempty ▸ hmem))
    · exact .inr (List.all_eq_true.mp hall p hmem)
  simp only [isShortened, Bool.and_eq_true] at h
  rcases hp with hp | hp
  · exact hside before h.1.1 hp
  · exact hside after h.1.2 hp

theorem isGroup_of_inOrder {first : Text} {inner : List Text} (h : inOrder first inner = true)
    {p : Text} (hp : p ∈ first :: inner) : p = [] ∨ isGroup p = true := by
  unfold inOrder at h
  dsimp only at h
  split at h
  · cases h
  · split at h
    · rename_i next after hdrop
      have hprefix : inner.dropLast.takeWhile (!·.isEmpty) <+: inner :=
        (List.takeWhile_prefix _).trans (List.dropLast_prefix inner)
      have hinner : inner = inner.dropLast.takeWhile (!·.isEmpty) ++ [] :: next :: after := by
        rw [← hdrop]
        exact (List.prefix_iff_eq_append.mp hprefix).symm
      rw [hinner, ← List.cons_append] at hp
      rcases List.mem_append.mp hp with hp | hp
      · exact isGroup_of_isShortened h (.inl hp)
      · rcases List.mem_cons.mp hp with hp | hp
        · exact .inl hp
        · exact isGroup_of_isShortened h (.inr hp)
    · rw [Bool.and_eq_true] at h
      exact .inr (List.all_eq_true.mp h.2 p hp)

theorem isAddressChar_of_isGroups (h : isGroups t = true) : ∀ c ∈ t, isAddressChar c = true := by
  intro c hc
  by_cases hcolon : c = ':'
  · rw [hcolon]
    rfl
  obtain ⟨piece, hpiece, hmem⟩ := Text.exists_mem_split hc hcolon
  have hcases : piece = [] ∨ isGroup piece = true ∨ isVersion4 piece = true := by
    rw [isGroups_eq] at h
    split at h
    · cases h
    · split at h
      · rename_i first inner hgroups
        rcases mem_expandedGroups? hgroups hpiece with hp | hp
        · exact (isGroup_of_inOrder h hp).imp_right .inl
        · exact .inr (.inr hp)
      · cases h
  rcases hcases with rfl | hgroup | hversion
  · cases hmem
  · simp only [isGroup, Bool.and_eq_true] at hgroup
    have hhex := List.all_eq_true.mp hgroup.2 c hmem
    simp [isAddressChar, hhex]
  · rcases isDigit_of_isVersion4 hversion hmem with hdigit | rfl
    · simp [isAddressChar, isSome_hexDigit?_of_isDigit hdigit]
    · rfl

end LinkHarvest.Ip
