import LinkHarvest.Proofs.Retrieval.Firsts
import LinkHarvest.Proofs.Run.Verdict

/-!
# What a store can hold of a source

Every link that a source serves is handed to the store, whether it can be decoded or not (`Kept`). A
store that takes the links of a source at all can fail on them in three ways: the owner is unknown
or the numbers of the rows have run out, which are problems of the store, or a decoded remark has an
unpaired half of a surrogate pair and is no text that a column can hold (`Unstorable`). Only the last
one is no problem of the source. It is met exactly when the source `Breaks`, that is when the store
comes to such a link before it fails in one of the other ways; `verdict_ok` says that every other
source has an outcome.
-/

namespace LinkHarvest

namespace Run

open Fallible

/-- The config of a link is what the registry makes of it; a link that it cannot decode is kept
without protocol and remark. -/
structure Kept (setting : Setting) (owner : Option Int) (link : Text) (d : Draft) : Prop where
  same : d.link = some link
  owner : d.owner = owner
  addedAt : d.addedAt = none
  lastSeenAt : d.lastSeenAt = some setting.now.timestamp
  decoded : ∀ summary, setting.registry.decode link = .ok summary →
    d.protocol = some summary.protocol ∧
      d.remark = if summary.remark.isEmpty then none else some summary.remark
  undecoded : ∀ failure, setting.registry.decode link = .error failure →
    d.protocol = none ∧ d.remark = none

/-- A link whose decoded remark is no text that a column can hold. -/
def Unstorable (registry : Link.Registry) (link : Text) : Prop :=
  ∃ summary, registry.decode link = .ok summary ∧ summary.remark.toText? = none

/-- The number of the source's subscription, if it has one, fits into a column. -/
def Source.Fits (source : Source) : Prop :=
  ∀ id, source.subscription = some id → Store.fitsColumn id

theorem fits_ofUrl (url : Text) : (Source.ofUrl url).Fits := by
  intro id hid
  cases hid

/-- The remarks of the links that a source serves are texts that a column can hold. -/
def Source.RemarksStorable (setting : Setting) (options : Options.FetchOptions) (s : State)
    (source : Source) : Prop :=
  ∀ lines, source.served setting options s = .ok lines →
    ∀ link ∈ lines, ¬Unstorable setting.registry link

variable {setting : Setting} {options : Options.FetchOptions} {s : State} {source : Source}
  {lines : List Text} {link : Text}

theorem Job.draft_kept (owner : Option Int) :
    Kept setting owner link (Job.draft setting owner link) := by
  refine ⟨draft_link owner, draft_owner owner, draft_addedAt owner, draft_lastSeenAt owner, ?_, ?_⟩
  · intro summary h
    unfold draft
    rw [h]
    exact ⟨rfl, rfl⟩
  · intro failure h
    unfold draft
    rw [h]
    exact ⟨rfl, rfl⟩

theorem forall₂_map_right {α β : Type} {R : α → β → Prop} {f : α → β} (l : List α)
    (h : ∀ a ∈ l, R a (f a)) : List.Forall₂ R l (l.map f) :=
  List.forall₂_map_right_iff.mpr (List.forall₂_same.mpr h)

/-- **No link of a source is dropped**: its first occurrence is kept. -/
theorem Source.drafts_kept :
    List.Forall₂ (Kept setting source.subscription) lines.eraseDups
      (source.drafts setting lines) := by
  rw [← Retrieval.firsts_eq_eraseDups]
  exact forall₂_map_right _ fun link _ => Job.draft_kept source.subscription

/-! ## One link -/

theorem dated_draft (hclock : setting.ClockInRange) (owner : Option Int) :
    Store.dated setting.now (Job.draft setting owner link) =
      .ok ⟨Job.draft setting owner link, setting.now, setting.now⟩ := by
  have hnow : Store.instant setting.now.timestamp = .ok setting.now := by
    apply Store.instant_of_eq_some
    rw [Instant.ofTimestamp?_timestamp]
    exact if_pos hclock
  unfold Store.dated
  rw [Job.draft_addedAt, Job.draft_lastSeenAt, Option.getD_none, Option.getD_some, hnow]
  rfl

theorem Source.Fits.checkInteger (h : source.Fits) :
    (source.subscription.map Store.checkInteger).getD (.ok ()) = .ok () := by
  cases hid : source.subscription with
  | none => rfl
  | some id => exact if_pos (h id hid)

/-- The draft of a link with the times under which it is stored. -/
def Source.dated (setting : Setting) (source : Source) (link : Text) : Store.Dated :=
  ⟨Job.draft setting source.subscription link, setting.now, setting.now⟩

variable {knows : Option Int → Bool} {left : Nat} {links : List Text}

theorem rowFor_unstorable (hfits : source.Fits) (isLeft : Bool)
    (h : Unstorable setting.registry link) :
    ∃ t, Store.rowFor knows isLeft (source.dated setting link) = .error (.unpairedHalf t) := by
  obtain ⟨summary, hdecode, htext⟩ := h
  have hremark : (Job.draft setting source.subscription link).remark = some summary.remark := by
    rw [((Job.draft_kept source.subscription).decoded summary hdecode).2, if_neg]
    intro hempty
    rw [List.isEmpty_iff.mp hempty] at htext
    cases htext
  refine ⟨summary.remark, ?_⟩
  unfold Store.rowFor Source.dated
  rw [Job.draft_owner, hfits.checkInteger, hremark]
  simp only [ok_bind, Store.columnText, htext, error_bind]

/-- Why the store may refuse a row whose values it can hold. -/
def Source.refused (source : Source) (knows : Option Int → Bool) (isLeft : Bool) :
    Option Constraint :=
  if isLeft then if knows source.subscription then none else some .ownerExists
  else some .numberLeft

theorem Source.refused_eq_none {isLeft : Bool} :
    source.refused knows isLeft = none ↔ isLeft = true ∧ knows source.subscription = true := by
  unfold refused
  cases isLeft <;> cases knows source.subscription <;> simp

theorem rowWith_draft (isLeft : Bool) (remark : Option Text) :
    Store.rowWith knows isLeft (source.dated setting link) remark =
      match source.refused knows isLeft with
      | none => .ok ⟨source.subscription, link, (source.dated setting link).draft.protocol, remark,
          setting.now, setting.now⟩
      | some p => .error (.constraint .saving p) := by
  unfold Store.rowWith Source.refused Source.dated
  rw [Job.draft_link]
  simp only [Job.draft_owner]
  cases isLeft <;> cases knows source.subscription <;> rfl

theorem rowFor_storable (hfits : source.Fits) (knows : Option Int → Bool) (isLeft : Bool)
    (h : ¬Unstorable setting.registry link) :
    ∃ v, Store.rowFor knows isLeft (source.dated setting link) =
      match source.refused knows isLeft with
      | none => .ok v
      | some p => .error (.constraint .saving p) := by
  unfold Store.rowFor
  rw [show (source.dated setting link).draft.owner = source.subscription from Job.draft_owner _,
    hfits.checkInteger, ok_bind]
  cases hremark : (source.dated setting link).draft.remark with
  | none => exact ⟨_, rowWith_draft isLeft none⟩
  | some remark =>
    have hkept : Kept setting source.subscription link (source.dated setting link).draft :=
      Job.draft_kept _
    cases hdecode : setting.registry.decode link with
    | error failure =>
      rw [(hkept.undecoded failure hdecode).2] at hremark
      cases hremark
    | ok summary =>
      rw [(hkept.decoded summary hdecode).2] at hremark
      split at hremark
      · cases hremark
      · cases hremark
        cases htext : summary.remark.toText? with
        | none => exact (h ⟨summary, hdecode, htext⟩).elim
        | some text =>
          simp only [Store.columnText, htext, ok_bind]
          exact ⟨_, rowWith_draft isLeft (some text)⟩

/-! ## All links -/

/-- The store takes the links of a source at all: it is open, and its surroundings do not refuse. -/
def Source.Taken (s : State) (source : Source) (lines : List Text) : Prop :=
  s.store.isOpen = true ∧
    s.store.refusal (.upsert (List.replicate lines.eraseDups.length source.subscription)) = none

/-- The links that the store comes to, which are those before its first complaint of another kind
and the one with that complaint: one more than there are numbers left, or the first one when the
owner is unknown. -/
def Source.reached (s : State) (source : Source) (lines : List Text) : List Text :=
  lines.eraseDups.take
    (if s.store.database.knows source.subscription then s.store.database.numbersLeft + 1 else 1)

/-- The source serves a link that no store can hold, and the store comes to it. -/
def Source.Breaks (setting : Setting) (options : Options.FetchOptions) (s : State)
    (source : Source) : Prop :=
  ∃ lines, source.served setting options s = .ok lines ∧ source.Taken s lines ∧
    ∃ link ∈ source.reached s lines, Unstorable setting.registry link

theorem Source.RemarksStorable.not_breaks (h : source.RemarksStorable setting options s) :
    ¬source.Breaks setting options s := by
  rintro ⟨lines, hserved, -, link, hlink, hbad⟩
  exact h lines hserved link (List.mem_eraseDups.mp (List.mem_of_mem_take hlink)) hbad

theorem rowsFrom_unstorable (hfits : source.Fits)
    (h : ∃ link ∈ links.take (if knows source.subscription then left + 1 else 1),
      Unstorable setting.registry link) :
    ∃ t, Store.rowsFrom knows left (links.map (source.dated setting)) =
      .error (.unpairedHalf t) := by
  obtain ⟨link, hlink, hbad⟩ := h
  induction links generalizing left with
  | nil =>
    rw [List.take_nil] at hlink
    cases hlink
  | cons first rest ih =>
    rw [List.map_cons, Store.rowsFrom]
    by_cases hfirst : Unstorable setting.registry first
    · obtain ⟨t, ht⟩ := rowFor_unstorable hfits (0 < left) hfirst
      exact ⟨t, by rw [ht, error_bind]⟩
    -- The first link is stored, so the store comes to the next one.
    have hrest : ∀ n, link ∈ (first :: rest).take (n + 1) → link ∈ rest.take n := by
      intro n hmem
      rw [List.take_succ_cons] at hmem
      rcases List.mem_cons.mp hmem with rfl | hmem
      · exact absurd hbad hfirst
      · exact hmem
    cases hknows : knows source.subscription with
    | false =>
      rw [hknows, if_neg Bool.false_ne_true] at hlink
      cases hrest 0 hlink
    | true =>
      simp only [hknows, if_true] at hlink ih
      have hmem := hrest left hlink
      cases left with
      | zero => cases hmem
      | succ left =>
        obtain ⟨v, hv⟩ := rowFor_storable hfits knows (0 < left + 1) hfirst
        have hrefused : source.refused knows (0 < left + 1) = none :=
          Source.refused_eq_none.mpr ⟨decide_eq_true (Nat.succ_pos left), hknows⟩
        rw [hrefused] at hv
        obtain ⟨t, ht⟩ := ih hmem
        exact ⟨t, by rw [hv, ok_bind, Nat.add_sub_cancel, ht, error_bind]⟩

theorem rowsFrom_storable (hfits : source.Fits)
    (h : ∀ link ∈ links.take (if knows source.subscription then left + 1 else 1),
      ¬Unstorable setting.registry link) :
    (∃ rows, Store.rowsFrom knows left (links.map (source.dated setting)) = .ok rows) ∨
      ∃ p, Store.rowsFrom knows left (links.map (source.dated setting)) = .error p ∧
        p.isReported = true := by
  induction links generalizing left with
  | nil => exact .inl ⟨[], rfl⟩
  | cons first rest ih =>
    have hfirst : ¬Unstorable setting.registry first := by
      apply h
      split <;> exact List.mem_cons_self
    obtain ⟨v, hv⟩ := rowFor_storable hfits knows (0 < left) hfirst
    rw [List.map_cons, Store.rowsFrom, hv]
    cases hrefused : source.refused knows (0 < left) with
    | some p => exact .inr ⟨_, rfl, rfl⟩
    | none =>
      rw [ok_bind]
      obtain ⟨hleft, hknows⟩ := Source.refused_eq_none.mp hrefused
      have hleft := of_decide_eq_true hleft
      simp only [hknows, if_true] at h ih
      have hrest : ∀ link ∈ rest.take (left - 1 + 1), ¬Unstorable setting.registry link := by
        intro link hlink
        rw [Nat.sub_add_cancel hleft] at hlink
        exact h link (List.mem_cons_of_mem first hlink)
      rcases ih hrest with ⟨rows, hrows⟩ | ⟨p, hp, hreported⟩
      · exact .inl ⟨v :: rows, by rw [hrows, ok_bind]; rfl⟩
      · exact .inr ⟨p, by rw [hp, error_bind], hreported⟩

theorem rows_eq (hclock : setting.ClockInRange) (hlines : lines ≠ []) :
    source.rows setting s lines = (do
      s.store.checkRefusal (.upsert (List.replicate lines.eraseDups.length source.subscription))
      s.store.checkOpen .saving
      Store.rowsFrom s.store.database.knows s.store.database.numbersLeft
        (lines.eraseDups.map (source.dated setting))) := by
  rw [← Retrieval.firsts_eq_eraseDups]
  have howners : (source.drafts setting lines).map Draft.owner =
      List.replicate (Retrieval.firsts lines).length source.subscription := by
    rw [← List.map_const', Source.drafts, List.map_map]
    exact List.map_congr_left fun link _ => Job.draft_owner _
  have hdated : (source.drafts setting lines).mapM (Store.dated setting.now) =
      .ok ((Retrieval.firsts lines).map (source.dated setting)) := by
    rw [Source.drafts, List.mapM_map]
    exact mapM_ok fun link _ => dated_draft hclock source.subscription
  obtain ⟨link, rest, rfl⟩ := List.exists_cons_of_ne_nil hlines
  have hdrafts : (source.drafts setting (link :: rest)).isEmpty = false := rfl
  have hfirsts : ((Retrieval.firsts (link :: rest)).map (source.dated setting)).isEmpty = false :=
    rfl
  unfold Source.rows Store.rowsFor
  rw [hdrafts, howners, hdated, if_neg Bool.false_ne_true]
  simp only [ok_bind, hfirsts]
  rfl

/-- **A source breaks on a link that no store can hold.** -/
theorem rows_of_breaks (hclock : setting.ClockInRange) (hfits : source.Fits)
    (htaken : source.Taken s lines)
    (h : ∃ link ∈ source.reached s lines, Unstorable setting.registry link) :
    ∃ t, source.rows setting s lines = .error (.unpairedHalf t) := by
  have hlines : lines ≠ [] := by
    rintro rfl
    obtain ⟨link, hlink, -⟩ := h
    simp [Source.reached] at hlink
  obtain ⟨t, ht⟩ := rowsFrom_unstorable hfits h
  refine ⟨t, ?_⟩
  rw [rows_eq hclock hlines, Store.checkRefusal, htaken.2, Store.checkOpen, if_pos htaken.1]
  exact ht

theorem rows_of_not_breaks (hclock : setting.ClockInRange) (hfits : source.Fits)
    (h : source.Taken s lines →
      ∀ link ∈ source.reached s lines, ¬Unstorable setting.registry link) :
    (∃ rows, source.rows setting s lines = .ok rows) ∨
      ∃ p, source.rows setting s lines = .error p ∧ p.isReported = true := by
  by_cases hlines : lines = []
  · subst hlines
    exact .inl ⟨[], rfl⟩
  rw [rows_eq hclock hlines]
  unfold Store.checkRefusal
  cases hrefusal : s.store.refusal
      (.upsert (List.replicate lines.eraseDups.length source.subscription)) with
  | some message => exact .inr ⟨_, rfl, rfl⟩
  | none =>
    cases hopen : s.store.isOpen with
    | false =>
      refine .inr ⟨.closed .saving, ?_, rfl⟩
      rw [Store.checkOpen, hopen]
      rfl
    | true =>
      rw [Store.checkOpen, if_pos hopen]
      exact rowsFrom_storable hfits (h ⟨hopen, hrefusal⟩)

end Run

end LinkHarvest
