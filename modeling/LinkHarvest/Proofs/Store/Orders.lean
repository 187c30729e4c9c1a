import LinkHarvest.Proofs.Store.Rows

/-!
# Upserts in another order

When the values for one link differ in their owner at most, the order in which they are upserted
shows in one place only: which of the owners that are given is the last one. `rowsOf_putAll_perm`
says so for the rows of every link; the numbers of new rows aside, everything else is the same.
-/

namespace LinkHarvest.Database

/-- Values that differ in their link and owner at most. -/
structure Alike (v w : ConfigValues) : Prop where
  protocol : v.protocol = w.protocol
  remark : v.remark = w.remark
  addedAt : v.addedAt = w.addedAt
  lastSeenAt : v.lastSeenAt = w.lastSeenAt

/-- Rows of one link that agree, up to the owners that are given and to the number of a new row. -/
structure SameRow (isOld : Prop) (owners : Int → Prop) (c c' : Config) : Prop where
  protocol : c.protocol = c'.protocol
  remark : c.remark = c'.remark
  addedAt : c.addedAt = c'.addedAt
  lastSeenAt : c.lastSeenAt = c'.lastSeenAt
  number : isOld → c.id = c'.id
  owner : c.owner ≠ c'.owner →
    ∃ i k, i ≠ k ∧ owners i ∧ owners k ∧ c.owner = some i ∧ c'.owner = some k

variable {db : Database} {v : ConfigValues} {vs ws : List ConfigValues} {c c' : Config} {α : Type}
  {column : ConfigValues → Option α}

theorem lastGiven_of_const {a : Option α} (hne : vs ≠ []) (h : ∀ v ∈ vs, column v = a) :
    lastGiven column vs = a := by
  induction vs using List.reverseRecOn with
  | nil => exact absurd rfl hne
  | append_singleton vs v ih =>
    rw [lastGiven_concat, h v (by simp)]
    cases a with
    | some a => rfl
    | none =>
      by_cases hvs : vs = []
      · rw [hvs]
        rfl
      · exact ih hvs fun w hw => h w (by simp [hw])

theorem exists_mem_of_lastGiven {a : α} (h : lastGiven column vs = some a) :
    ∃ v ∈ vs, column v = some a :=
  List.mem_filterMap.mp (List.mem_of_getLast? h)

theorem lastGiven_eq_none : lastGiven column vs = none ↔ ∀ v ∈ vs, column v = none := by
  rw [lastGiven, List.getLast?_eq_none_iff, List.filterMap_eq_nil_iff]

theorem lastGiven_perm (hperm : vs.Perm ws) (h : ∀ v ∈ vs, ∀ w ∈ vs, column v = column w) :
    lastGiven column vs = lastGiven column ws := by
  by_cases hvs : vs = []
  · subst hvs
    rw [hperm.nil_eq]
  · obtain ⟨v, rest, rfl⟩ := List.exists_cons_of_ne_nil hvs
    have hws : ws ≠ [] := fun hws => hvs (hperm.trans (hws ▸ List.Perm.refl _)).eq_nil
    have hconst : ∀ w ∈ v :: rest, column w = column v := fun w hw => h w hw v List.mem_cons_self
    rw [lastGiven_of_const hvs hconst,
      lastGiven_of_const hws fun w hw => hconst w (hperm.mem_iff.mpr hw)]

/-- The last owner that is given is one of the owners, or there are none. -/
theorem lastGiven_owner_perm (hperm : vs.Perm ws) :
    lastGiven ConfigValues.owner vs = lastGiven ConfigValues.owner ws ∨
      ∃ i k, i ≠ k ∧ (∃ v ∈ vs, v.owner = some i) ∧ (∃ v ∈ vs, v.owner = some k) ∧
        lastGiven ConfigValues.owner vs = some i ∧ lastGiven ConfigValues.owner ws = some k := by
  cases hvs : lastGiven ConfigValues.owner vs with
  | none =>
    refine .inl (lastGiven_eq_none.mpr fun w hw => ?_).symm
    exact lastGiven_eq_none.mp hvs w (hperm.mem_iff.mpr hw)
  | some i =>
    obtain ⟨v, hv, hi⟩ := exists_mem_of_lastGiven hvs
    cases hws : lastGiven ConfigValues.owner ws with
    | none =>
      have hnone := lastGiven_eq_none.mp hws v (hperm.mem_iff.mp hv)
      cases hi.symm.trans hnone
    | some k =>
      obtain ⟨w, hw, hk⟩ := exists_mem_of_lastGiven hws
      by_cases hik : i = k
      · exact .inl (congrArg some hik)
      · exact .inr ⟨i, k, hik, ⟨v, hv, hi⟩, ⟨w, hperm.mem_iff.mpr hw, hk⟩, rfl, rfl⟩

theorem refreshedBy_perm {isOld : Prop} (hperm : vs.Perm ws)
    (halike : ∀ v ∈ vs, ∀ w ∈ vs, Alike v w) (hprotocol : c.protocol = c'.protocol)
    (hremark : c.remark = c'.remark) (hadded : c.addedAt = c'.addedAt)
    (hseen : c.lastSeenAt = c'.lastSeenAt) (hnumber : isOld → c.id = c'.id)
    (howner : (∀ v ∈ vs, v.owner = none) → c.owner = c'.owner) :
    SameRow isOld (fun i => ∃ v ∈ vs, v.owner = some i) (refreshedBy vs c) (refreshedBy ws c') := by
  have hprotocols : lastGiven ConfigValues.protocol vs = lastGiven ConfigValues.protocol ws :=
    lastGiven_perm hperm fun v hv w hw => (halike v hv w hw).protocol
  have hremarks : lastGiven ConfigValues.remark vs = lastGiven ConfigValues.remark ws :=
    lastGiven_perm hperm fun v hv w hw => (halike v hv w hw).remark
  have htimes : lastGiven (some ∘ ConfigValues.lastSeenAt) vs =
      lastGiven (some ∘ ConfigValues.lastSeenAt) ws :=
    lastGiven_perm hperm fun v hv w hw => congrArg some (halike v hv w hw).lastSeenAt
  rw [refreshedBy_eq, refreshedBy_eq, hprotocols, hremarks, htimes, hprotocol, hremark, hseen]
  refine ⟨rfl, rfl, hadded, rfl, hnumber, ?_⟩
  · intro hne
    dsimp only at hne ⊢
    rcases lastGiven_owner_perm hperm with hsame | ⟨i, k, hik, hi, hk, hvs, hws⟩
    · rw [← hsame] at hne
      cases hvs : lastGiven ConfigValues.owner vs with
      | none =>
        rw [hvs] at hne
        exact absurd (howner (lastGiven_eq_none.mp hvs)) hne
      | some i =>
        rw [hvs] at hne
        exact absurd rfl hne
    · refine ⟨i, k, hik, hi, hk, ?_, ?_⟩
      · rw [hvs]
        rfl
      · rw [hws]
        rfl

/-- **Upserts in another order leave the same rows of every link**, the numbers of new rows aside,
and the owner is in both orders one of those that are given. -/
theorem rowsOf_putAll_perm (db : Database) (hperm : vs.Perm ws)
    (halike : ∀ v ∈ vs, ∀ w ∈ vs, v.link = w.link → Alike v w) (link : Text) :
    List.Forall₂ (SameRow (db.rowsOf link ≠ []) fun i => ∃ v ∈ vs, v.link = link ∧ v.owner = some i)
      ((db.putAll vs).rowsOf link) ((db.putAll ws).rowsOf link) := by
  obtain ⟨id, -, hvs⟩ := db.rowsOf_putAll vs link
  obtain ⟨id', -, hws⟩ := db.rowsOf_putAll ws link
  have hmem : ∀ v, v ∈ vs.filter (·.link = link) ↔ v ∈ vs ∧ v.link = link := by simp
  have hfilter := hperm.filter (fun v => decide (v.link = link))
  have halike' : ∀ v ∈ vs.filter (·.link = link), ∀ w ∈ vs.filter (·.link = link), Alike v w := by
    intro v hv w hw
    obtain ⟨hv, hvlink⟩ := (hmem v).mp hv
    obtain ⟨hw, hwlink⟩ := (hmem w).mp hw
    exact halike v hv w hw (hvlink.trans hwlink.symm)
  have howners : ∀ i, (∃ v ∈ vs.filter (·.link = link), v.owner = some i) ↔
      ∃ v ∈ vs, v.link = link ∧ v.owner = some i := by
    intro i
    simp only [hmem, and_assoc]
  rw [hvs, hws, ← funext fun i => propext (howners i)]
  generalize vs.filter (·.link = link) = fs at hfilter halike' ⊢
  generalize ws.filter (·.link = link) = gs at hfilter ⊢
  cases hrows : db.rowsOf link with
  | cons c rest =>
    have hseeds : ∀ id us, seeds id (c :: rest) us = c :: rest := fun _ _ => if_neg (by simp)
    rw [hseeds, hseeds]
    refine List.forall₂_map_left_iff.mpr (List.forall₂_map_right_iff.mpr ?_)
    exact List.forall₂_same.mpr fun c _ =>
      refreshedBy_perm hfilter halike' rfl rfl rfl rfl (fun _ => rfl) fun _ => rfl
  | nil =>
    cases fs with
    | nil =>
      obtain rfl := hfilter.nil_eq
      exact .nil
    | cons v fs =>
      obtain ⟨w, gs, rfl⟩ := List.exists_cons_of_ne_nil fun hgs =>
        List.cons_ne_nil v fs (hfilter.trans (hgs ▸ List.Perm.refl _)).eq_nil
      have hw : w ∈ v :: fs := hfilter.mem_iff.mpr List.mem_cons_self
      have hsame := halike' v List.mem_cons_self w hw
      refine .cons (refreshedBy_perm hfilter halike' hsame.protocol hsame.remark hsame.addedAt
        hsame.lastSeenAt (fun h => absurd rfl h) fun hnone => ?_) .nil
      exact (hnone v List.mem_cons_self).trans (hnone w hw).symm

/-- Once a link is upserted with an owner, its rows have one of the owners that are given. -/
theorem owner_of_mem_rowsOf_putAll {link : Text} {i : Int} (hv : v ∈ vs) (hlink : v.link = link)
    (howner : v.owner = some i) (hc : c ∈ (db.putAll vs).rowsOf link) :
    ∃ k, c.owner = some k ∧ ∃ w ∈ vs, w.link = link ∧ w.owner = some k := by
  obtain ⟨id, -, hrows⟩ := db.rowsOf_putAll vs link
  rw [hrows] at hc
  obtain ⟨c₀, -, rfl⟩ := List.mem_map.mp hc
  have hmem : v ∈ vs.filter (·.link = link) := by simp [hv, hlink]
  rw [refreshedBy_eq]
  cases hlast : lastGiven ConfigValues.owner (vs.filter (·.link = link)) with
  | none => cases (lastGiven_eq_none.mp hlast v hmem).symm.trans howner
  | some k =>
    obtain ⟨w, hw, hk⟩ := exists_mem_of_lastGiven hlast
    have hw : w ∈ vs ∧ w.link = link := by simpa using hw
    exact ⟨k, rfl, w, hw.1, hw.2, hk⟩

/-! ## The same order -/

/-- Rows that are the same up to the number of a new row. -/
structure UpToNumber (isOld : Prop) (c c' : Config) : Prop where
  row : c' = { c with id := c'.id }
  number : isOld → c'.id = c.id

theorem refreshedBy_number (vs : List ConfigValues) (c : Config) (id : Int) :
    refreshedBy vs { c with id } = { refreshedBy vs c with id } := by
  rw [refreshedBy_eq, refreshedBy_eq]

theorem rowsOf_putAll_congr (db : Database) {link : Text}
    (h : vs.filter (·.link = link) = ws.filter (·.link = link)) :
    List.Forall₂ (UpToNumber (db.rowsOf link ≠ [])) ((db.putAll vs).rowsOf link)
      ((db.putAll ws).rowsOf link) := by
  obtain ⟨id, -, hvs⟩ := db.rowsOf_putAll vs link
  obtain ⟨id', -, hws⟩ := db.rowsOf_putAll ws link
  rw [hvs, hws, ← h]
  generalize vs.filter (·.link = link) = fs
  cases db.rowsOf link with
  | cons c rest =>
    have hseeds : ∀ id us, seeds id (c :: rest) us = c :: rest := fun _ _ => if_neg (by simp)
    rw [hseeds, hseeds]
    exact List.forall₂_same.mpr fun _ _ => ⟨rfl, fun _ => rfl⟩
  | nil =>
    cases fs with
    | nil => exact .nil
    | cons v fs =>
      have hnew : refreshedBy (v :: fs) (created id' v) =
          { refreshedBy (v :: fs) (created id v) with id := id' } :=
        refreshedBy_number (v :: fs) (created id v) id'
      have hnumber : (refreshedBy (v :: fs) (created id' v)).id = id' := by
        rw [hnew]
      refine .cons ⟨?_, fun hold => absurd rfl hold⟩ .nil
      rw [hnumber]
      exact hnew

end LinkHarvest.Database
