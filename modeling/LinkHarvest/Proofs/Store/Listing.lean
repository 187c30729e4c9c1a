import LinkHarvest.Proofs.Sorting
import LinkHarvest.Proofs.Store.Numbers
import Mathlib.Algebra.BigOperators.Group.List.Lemmas
import Mathlib.Algebra.GroupWithZero.Nat

/-!
# Listing and counting configs

No two rows of a table tie, because their numbers differ (`sorting_configs`). So rows may be picked
before they are sorted or afterwards, and every list of configs that a store answers with is cut out
of one list, the sorted table (`configs_eq`). Counting is measuring the same list.
`configs_listed` puts this together.
-/

namespace LinkHarvest

namespace Config

/-- Whether a config is listed above another one: it was seen later, by the text of the time, or at
the same time and has the greater number. -/
def Above (a b : Config) : Prop :=
  b.lastSeenAt.text < a.lastSeenAt.text ∨ a.lastSeenAt.text = b.lastSeenAt.text ∧ b.id < a.id

/-- Whether a config has an owner; none, and the number zero, stand for any. -/
def hasOwner (owner : Option Int) (c : Config) : Bool :=
  owner = none ∨ owner = some 0 ∨ c.owner = owner

/-- Whether a config has a protocol; none, and the empty one, stand for any. -/
def hasProtocol (protocol : Option Text) (c : Config) : Bool :=
  protocol = none ∨ protocol = some [] ∨ c.protocol = protocol

theorem Above.asymm {a b : Config} (h : a.Above b) : ¬ b.Above a := by
  intro h'
  unfold Above at h h'
  generalize a.lastSeenAt.text = s at h h'
  generalize b.lastSeenAt.text = t at h h'
  rcases h with htime | ⟨rfl, hid⟩ <;> rcases h' with htime' | ⟨hsame, hid'⟩
  · exact List.lt_asymm htime htime'
  · exact List.lt_irrefl s (hsame ▸ htime)
  · exact List.lt_irrefl s htime'
  · omega

end Config

namespace Database

open Config

variable {db : Database} {rows : List Config}

/-! ## Sorting -/

theorem listedBefore_iff {a b : Config} : listedBefore a b = true ↔
    b.lastSeenAt.text < a.lastSeenAt.text ∨
      a.lastSeenAt.text = b.lastSeenAt.text ∧ b.id ≤ a.id := by
  simp only [listedBefore, Bool.or_eq_true, Bool.and_eq_true, decide_eq_true_eq, beq_iff_eq]

theorem listedBefore_trans (a b c : Config) (h : listedBefore a b = true)
    (h' : listedBefore b c = true) : listedBefore a c = true := by
  rw [listedBefore_iff] at *
  generalize a.lastSeenAt.text = s at *
  generalize b.lastSeenAt.text = t at *
  generalize c.lastSeenAt.text = u at *
  rcases h with htime | ⟨rfl, hid⟩ <;> rcases h' with htime' | ⟨rfl, hid'⟩
  · exact .inl (List.lt_trans htime' htime)
  · exact .inl htime
  · exact .inl htime'
  · exact .inr ⟨rfl, Int.le_trans hid' hid⟩

theorem listedBefore_total (a b : Config) : (listedBefore a b || listedBefore b a) = true := by
  rw [Bool.or_eq_true, listedBefore_iff, listedBefore_iff]
  generalize a.lastSeenAt.text = s
  generalize b.lastSeenAt.text = t
  by_cases hst : s < t
  · exact .inr (.inl hst)
  by_cases hts : t < s
  · exact .inl (.inl hts)
  obtain rfl : s = t := List.le_antisymm hts hst
  rcases Int.le_total a.id b.id with hid | hid
  · exact .inr (.inr ⟨rfl, hid⟩)
  · exact .inl (.inr ⟨rfl, hid⟩)

/-- The rows in the order in which they are listed. -/
def sorted (rows : List Config) : List Config := rows.mergeSort listedBefore

theorem sorted_perm (rows : List Config) : (sorted rows).Perm rows := List.mergeSort_perm rows _

theorem sorting_configs : Sorting listedBefore Above Config.id where
  trans := listedBefore_trans
  total := listedBefore_total
  asymm := fun a b => Above.asymm
  strict := by
    intro a b hbefore hne
    rcases listedBefore_iff.mp hbefore with htime | ⟨htime, hid⟩
    · exact .inl htime
    · exact .inr ⟨htime, by omega⟩

theorem sorted_descends (h : (rows.map Config.id).Nodup) : (sorted rows).Pairwise Above :=
  sorting_configs.pairwise_mergeSort h

/-! ## Picking -/

/-- The configs that have an owner and a protocol, in the order in which they are listed. -/
def listed (db : Database) (owner : Option Int) (protocol : Option Text) : List Config :=
  (sorted db.configs).filter fun c => c.hasOwner owner && c.hasProtocol protocol

theorem listConfigs_eq (h : (db.configs.map Config.id).Nodup) (owner : Option Int)
    (protocol : Option Text) :
    db.listConfigs (owner.filter (· ≠ 0)) (protocol.filter (!·.isEmpty)) =
      db.listed owner protocol := by
  have howner : ∀ c : Config, ((owner.filter (· ≠ 0)).isNone ||
      c.owner == owner.filter (· ≠ 0)) = c.hasOwner owner := by
    intro c
    unfold hasOwner
    cases owner with
    | none => simp
    | some id => by_cases hzero : id = 0 <;> simp [Option.filter, hzero, beq_eq_decide]
  have hprotocol : ∀ c : Config, ((protocol.filter (!·.isEmpty)).isNone ||
      c.protocol == protocol.filter (!·.isEmpty)) = c.hasProtocol protocol := by
    intro c
    unfold hasProtocol
    rcases protocol with _ | _ | ⟨first, rest⟩ <;> simp [Option.filter, beq_eq_decide]
  rw [listed, sorted, ← sorting_configs.mergeSort_filter h, listConfigs]
  simp only [howner, hprotocol]

theorem listed_filter_owner (db : Database) (owner : Option Int) (protocol : Option Text) :
    db.listed owner protocol = (db.listed none protocol).filter (·.hasOwner owner) := by
  simp [listed, hasOwner, List.filter_filter]

theorem listed_filter_protocol (db : Database) (owner : Option Int) (protocol : Option Text) :
    db.listed owner protocol = (db.listed owner none).filter (·.hasProtocol protocol) := by
  simp [listed, hasProtocol, List.filter_filter, Bool.and_comm]

theorem mem_listed {owner : Option Int} {protocol : Option Text} {c : Config} :
    c ∈ db.listed owner protocol ↔
      c ∈ db.configs ∧ c.hasOwner owner = true ∧ c.hasProtocol protocol = true := by
  rw [listed, List.mem_filter, (sorted_perm db.configs).mem_iff, Bool.and_eq_true]

theorem listed_length {id : Int} (h : id ≠ 0) :
    (db.listed (some id) none).length = db.countConfigs (some id) := by
  rw [listed, ((sorted_perm db.configs).filter _).length_eq, countConfigs]
  simp [hasOwner, hasProtocol, h]

/-! ## Counting -/

theorem sum_owner {ids : List Int} (hnodup : ids.Nodup) (owner : Option Int)
    (h : ∀ id, owner = some id → id ∈ ids) :
    (ids.map fun id => if owner = some id then 1 else 0).sum + (if owner = none then 1 else 0) =
      1 := by
  cases owner with
  | none => simp
  | some id =>
    have hone : (ids.map fun i => if some id = some i then 1 else 0).sum = ids.count id • 1 := by
      rw [List.sum_map_eq_nsmul_single id _ fun i hne _ => if_neg fun heq => hne (by simp_all)]
      simp
    rw [hone, List.count_eq_one_of_mem hnodup (h id rfl)]
    simp

theorem length_eq_sum {ids : List Int} (hnodup : ids.Nodup)
    (h : ∀ c ∈ rows, ∀ id, c.owner = some id → id ∈ ids) :
    rows.length = (ids.map fun id => (rows.filter fun c => c.owner = some id).length).sum +
      rows.countP fun c => c.owner = none := by
  simp only [← List.countP_eq_length_filter]
  induction rows with
  | nil => simp
  | cons c rows ih =>
    obtain ⟨hc, hrows⟩ := List.forall_mem_cons.mp h
    have hone := sum_owner hnodup c.owner hc
    simp only [List.countP_cons, List.sum_map_add, List.length_cons, decide_eq_true_eq]
    rw [ih hrows]
    omega

end Database

namespace Store

open Database Config Fallible

variable {s : Store} {owner : Option Int} {protocol : Option Text} {limit : Option Int}
  {rows : List Config}

/-! ## What a store answers -/

/-- The first rows of a list; a limit below one is none. -/
def cut (limit : Option Int) (rows : List Config) : List Config :=
  ((limit.filter (0 < ·)).map fun n => rows.take n.toNat).getD rows

theorem cut_some (n : Int) (rows : List Config) :
    cut (some n) rows = if 0 < n then rows.take n.toNat else rows := by
  by_cases h : 0 < n <;> simp [cut, Option.filter, h]

theorem cut_sublist (limit : Option Int) (rows : List Config) : (cut limit rows).Sublist rows := by
  cases limit with
  | none => exact .refl rows
  | some n =>
    rw [cut_some]
    split
    · exact List.take_sublist n.toNat rows
    · exact .refl rows

theorem Reachable.configNumbers (h : s.Reachable) : (s.database.configs.map Config.id).Nodup :=
  (sound_empty.leadsTo h.leadsTo).configNumbers.imp Int.ne_of_lt

theorem checkInteger_filter {p : Int → Bool} (h : ∀ n, owner = some n → fitsColumn n = true) :
    ((owner.filter p).map checkInteger).getD (.ok ()) = .ok () := by
  cases hfilter : owner.filter p with
  | none => rfl
  | some n =>
    obtain ⟨hn, -⟩ := Option.filter_eq_some_iff.mp hfilter
    exact if_pos (h n hn)

/-- **Every list of configs is cut out of the sorted table.** -/
theorem configs_eq (h : s.Reachable) (hopen : s.isOpen = true)
    (hrefusal : s.refusal .configs = none) (howner : ∀ id, owner = some id → fitsColumn id = true)
    (hlimit : ∀ n, limit = some n → fitsColumn n = true) :
    s.configs owner protocol limit = .ok (cut limit (s.database.listed owner protocol)) := by
  simp only [configs, checkRefusal, checkOpen, hrefusal, hopen, if_true, ok_bind,
    checkInteger_filter howner, checkInteger_filter hlimit, listConfigs_eq h.configNumbers]
  rfl

theorem configs_eq_ok (h : s.Reachable) (hrows : s.configs owner protocol limit = .ok rows) :
    rows = cut limit (s.database.listed owner protocol) := by
  obtain ⟨_, -, hrows⟩ := bind_eq_ok.mp hrows
  obtain ⟨_, -, hrows⟩ := bind_eq_ok.mp hrows
  obtain ⟨_, -, hrows⟩ := bind_eq_ok.mp hrows
  obtain ⟨_, -, hrows⟩ := bind_eq_ok.mp hrows
  rw [listConfigs_eq h.configNumbers] at hrows
  cases hrows
  rfl

theorem count_eq (hopen : s.isOpen = true) (hrefusal : s.refusal .count = none)
    (howner : ∀ id, owner = some id → fitsColumn id = true) :
    s.count owner = .ok (s.database.countConfigs owner) := by
  have hinteger : (owner.map checkInteger).getD (.ok ()) = .ok () := by
    cases owner with
    | none => rfl
    | some id => exact if_pos (howner id rfl)
  simp only [count, checkRefusal, checkOpen, hrefusal, hopen, if_true, ok_bind, hinteger]
  rfl

/-- What a store lists for an owner and a protocol: just the configs that have both, without
repetition and the newest first; the first of them under a limit, and more under a greater one; and
the same as what one of the two picks out of the list for the other. -/
structure Lists (s : Store) (owner : Option Int) (protocol : Option Text)
    (rows : List Config) : Prop where
  unlimited : s.configs owner protocol none = .ok rows
  nodup : rows.Nodup
  mem : ∀ c, c ∈ rows ↔
    c ∈ s.database.configs ∧ c.hasOwner owner = true ∧ c.hasProtocol protocol = true
  descending : rows.Pairwise Above
  limited : ∀ n, fitsColumn n = true →
    s.configs owner protocol (some n) = .ok (if 0 < n then rows.take n.toNat else rows)
  grows : ∀ m n, 0 < m → m ≤ n → fitsColumn n = true → ∃ few more,
    s.configs owner protocol (some m) = .ok few ∧ s.configs owner protocol (some n) = .ok more ∧
      few <+: more ∧ more <+: rows
  ofOwner : ∃ every, s.configs owner none none = .ok every ∧
    rows = every.filter (·.hasProtocol protocol)
  ofProtocol : ∃ every, s.configs none protocol none = .ok every ∧
    rows = every.filter (·.hasOwner owner)

theorem lists (h : s.Reachable) (hopen : s.isOpen = true) (hrefusal : s.refusal .configs = none)
    (howner : ∀ id, owner = some id → fitsColumn id = true) (protocol : Option Text) :
    s.Lists owner protocol (s.database.listed owner protocol) := by
  have hdescends : (s.database.listed owner protocol).Pairwise Above :=
    (sorted_descends h.configNumbers).filter _
  have hnone : ∀ id : Int, none = some id → fitsColumn id = true := nofun
  have hlimited : ∀ n, fitsColumn n = true → s.configs owner protocol (some n) =
      .ok (if 0 < n then (s.database.listed owner protocol).take n.toNat
        else s.database.listed owner protocol) := by
    intro n hn
    rw [← cut_some]
    exact configs_eq h hopen hrefusal howner fun _ heq => Option.some.inj heq ▸ hn
  refine ⟨configs_eq h hopen hrefusal howner hnone, ?_, fun c => mem_listed, hdescends, hlimited,
    ?_, ?_, ?_⟩
  · refine hdescends.imp fun {a b} hab => ?_
    rintro rfl
    exact hab.asymm hab
  · intro m n hm hmn hn
    have hfits : fitsColumn m = true := by
      simp only [fitsColumn, Bool.and_eq_true, decide_eq_true_eq] at hn ⊢
      omega
    refine ⟨_, _, hlimited m hfits, hlimited n hn, ?_, ?_⟩
    · rw [if_pos hm, if_pos (Int.lt_of_lt_of_le hm hmn)]
      exact List.take_prefix_take_left (by omega)
    · rw [if_pos (Int.lt_of_lt_of_le hm hmn)]
      exact List.take_prefix _ _
  · exact ⟨_, configs_eq h hopen hrefusal howner hnone, listed_filter_protocol _ _ _⟩
  · exact ⟨_, configs_eq h hopen hrefusal hnone hnone, listed_filter_owner _ _ _⟩

/-- **What a store answers about its configs.** A list of configs has just those that were asked
for, in their order; counting the configs of an owner is measuring the list of them; and all configs
are those of the subscriptions and those that have no owner. -/
theorem configs_listed (h : s.Reachable) (hopen : s.isOpen = true)
    (hconfigs : s.refusal .configs = none) (hcount : s.refusal .count = none) :
    (∀ owner protocol, (∀ id, owner = some id → fitsColumn id = true) →
      ∃ rows, s.Lists owner protocol rows) ∧
    (∀ id, id ≠ 0 → fitsColumn id = true →
      ∃ rows, s.Lists (some id) none rows ∧ s.count (some id) = .ok rows.length) ∧
    ∃ counts : List Nat,
      List.Forall₂ (fun sub n => s.count (some sub.id) = .ok n) s.database.subscriptions counts ∧
        s.count none =
          .ok (counts.sum + s.database.configs.countP fun c => c.owner = none) := by
  have hsound : s.database.Sound := sound_empty.leadsTo h.leadsTo
  refine ⟨fun owner protocol howner => ⟨_, lists h hopen hconfigs howner protocol⟩,
    fun id hid hfits => ?_, ?_⟩
  · have howner : ∀ i, some id = some i → fitsColumn i = true :=
      fun _ heq => Option.some.inj heq ▸ hfits
    refine ⟨_, lists h hopen hconfigs howner none, ?_⟩
    rw [count_eq hopen hcount howner, listed_length hid]
  · refine ⟨s.database.subscriptions.map fun sub => s.database.countConfigs (some sub.id), ?_, ?_⟩
    · rw [List.forall₂_map_right_iff, List.forall₂_same]
      intro sub hsub
      exact count_eq hopen hcount fun _ heq => Option.some.inj heq ▸ h.keyed.fits sub hsub
    · have howners : ∀ c ∈ s.database.configs, ∀ id, c.owner = some id →
          id ∈ s.database.subscriptions.map Subscription.id := by
        intro c hc id hid
        obtain ⟨sub, hsub, rfl⟩ := hsound.owners c hc id hid
        exact List.mem_map_of_mem hsub
      have hlength := length_eq_sum hsound.subscriptions_nodup howners
      rw [List.map_map] at hlength
      have hnone : ∀ id : Int, none = some id → fitsColumn id = true := nofun
      rw [count_eq hopen hcount hnone]
      exact congrArg Except.ok hlength

/-- A store with two links of its one subscription and one without an owner. -/
def twoOwned : Store :=
  (((Store.ofDatabase .empty).add ⟨63839750400000000⟩ "http://a/" none none).2.upsert
    ⟨63839750400000000⟩
    [⟨some 1, some "a".toList, some "vless".toList, none, none, none⟩,
      ⟨some 1, some "b".toList, some "trojan".toList, none, none, none⟩,
      ⟨none, some "c".toList, some "trojan".toList, none, none, none⟩]).2

theorem reachable_twoOwned : twoOwned.Reachable := .upsert (.add .new ..) ..

theorem configs_listed_twoOwned :
    twoOwned.isOpen = true ∧ twoOwned.refusal .configs = none ∧
      twoOwned.refusal .count = none ∧ twoOwned.count none = .ok 3 ∧
      (∃ rows, twoOwned.Lists (some 1) (some "trojan".toList) rows) ∧
      ∃ rows, twoOwned.configs (some 1) none none = .ok rows ∧ rows.length = 2 := by
  have hopen : twoOwned.isOpen = true := by decide +kernel
  have hrefusals : twoOwned.refusal = fun _ => none := rfl
  obtain ⟨hlists, hcounted, -⟩ := configs_listed reachable_twoOwned hopen
    (congrFun hrefusals _) (congrFun hrefusals _)
  have hfits : ∀ id : Int, some 1 = some id → fitsColumn id = true := by
    rintro id ⟨⟩
    rfl
  obtain ⟨rows, hrows, hlength⟩ := hcounted 1 (by decide) rfl
  have hcount : twoOwned.count (some 1) = .ok 2 := by decide +kernel
  refine ⟨hopen, congrFun hrefusals _, congrFun hrefusals _, by decide +kernel,
    hlists (some 1) (some "trojan".toList) hfits, rows, hrows.unlimited, ?_⟩
  rw [hcount] at hlength
  exact (Except.ok.inj hlength).symm

end Store

end LinkHarvest
