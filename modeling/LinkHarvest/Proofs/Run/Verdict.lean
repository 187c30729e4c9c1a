import LinkHarvest.Proofs.Retrieval.Clients
import LinkHarvest.Proofs.Retrieval.Firsts
import LinkHarvest.Proofs.Store.Calls
import LinkHarvest.Run.Process

/-!
# What becomes of a source

A source is processed in up to three steps, between which other sources may take steps of their own.
This module says in one piece what they come to: the `verdict` on the source, the rows that it
`writes` and the subscription that it `marks`. All three depend on the `frame` of the state, that is
on whether there is a client for the proxy, whether the store is open, what it refuses and which
subscriptions there are, and on the numbers that are left, as far as the links of the source need
them. Every step keeps the frame, so as long as there are numbers a step may be read in the state
before the run (`advance_advanced`), and `process_eq` puts the three together for a source that is
processed without a break.
-/

namespace LinkHarvest

namespace Run

open Fallible

/-- The clock shows a time of the years 1 to 9999. -/
def Setting.ClockInRange (setting : Setting) : Prop := setting.now.micros < Instant.limit

/-- What the verdict on a source depends on. -/
structure Frame where
  client : Option Http.Problem
  store : Store.Frame

/-- The frame of a state for sources that are fetched through a proxy. -/
def State.frame (s : State) (proxy : Option Text) : Frame :=
  ⟨Retrieval.clientProblem? s.clients proxy, s.store.frame⟩

namespace Source

def outcome (source : Source) (configs : List Draft) (rawCount : Nat)
    (problem : Option SourceProblem) : Outcome :=
  ⟨source.url, source.label, source.subscription, configs, rawCount, problem⟩

variable (setting : Setting) (options : Options.FetchOptions) (s : State) (source : Source)

/-- The lines that a source serves, or why it serves none. -/
def served : Except Retrieval.Problem (List Text) :=
  (Retrieval.fetch setting.routes setting.method s.clients
    ((Job.mk source []).request setting options)).result.map (·.body.links)

/-- The links of a source as they are handed to the store. -/
def drafts (lines : List Text) : List Draft :=
  (Retrieval.firsts lines).map (Job.draft setting source.subscription)

/-- The rows that the lines of a source come to, or why they cannot be stored. -/
def rows (lines : List Text) : Except StoreProblem (List ConfigValues) :=
  if (source.drafts setting lines).isEmpty then .ok []
  else s.store.rowsFor setting.now (source.drafts setting lines)

/-- The subscription at which the time is noted once the lines of a source are stored. -/
def stamps (lines : List Text) : List Int :=
  match source.subscription with
  | none => []
  | some id =>
    if (source.drafts setting lines).isEmpty then []
    else
      match s.store.stampFor id (some setting.now.timestamp) with
      | .ok _ => [id]
      | .error _ => []

/-- How many links a source serves, each of them counted once. -/
def linkCount : Nat :=
  match source.served setting options s with
  | .error _ => 0
  | .ok lines => lines.eraseDups.length

/-- What becomes of a source: its outcome, or a value that no store can hold. -/
def verdict : Except StoreProblem Outcome :=
  match source.served setting options s with
  | .error p => .ok (source.outcome [] 0 (some (.retrieval p)))
  | .ok lines =>
    match source.rows setting s lines with
    | .ok _ => .ok (source.outcome (source.drafts setting lines) lines.length none)
    | .error p =>
      if p.isReported then .ok (source.outcome [] lines.length (some (.store p))) else .error p

def writes : List ConfigValues :=
  match source.served setting options s with
  | .error _ => []
  | .ok lines => (source.rows setting s lines).toOption.getD []

def marks : List Int :=
  match source.served setting options s with
  | .error _ => []
  | .ok lines =>
    match source.rows setting s lines with
    | .error _ => []
    | .ok _ => source.stamps setting s lines

variable {setting options s source} {lines : List Text} {o : Outcome}

theorem verdict_cases (h : source.verdict setting options s = .ok o) :
    (∃ p, source.served setting options s = .error p ∧
        o = source.outcome [] 0 (some (.retrieval p))) ∨
      (∃ lines p, source.served setting options s = .ok lines ∧
        source.rows setting s lines = .error p ∧ p.isReported = true ∧
        o = source.outcome [] lines.length (some (.store p))) ∨
      ∃ lines rows, source.served setting options s = .ok lines ∧
        source.rows setting s lines = .ok rows ∧
        o = source.outcome (source.drafts setting lines) lines.length none := by
  unfold verdict at h
  cases hserved : source.served setting options s with
  | error p =>
    rw [hserved] at h
    cases h
    exact .inl ⟨p, rfl, rfl⟩
  | ok lines =>
    rw [hserved] at h
    dsimp only at h
    cases hrows : source.rows setting s lines with
    | ok rows =>
      rw [hrows] at h
      cases h
      exact .inr (.inr ⟨lines, rows, rfl, hrows, rfl⟩)
    | error p =>
      rw [hrows] at h
      dsimp only at h
      split at h
      · rename_i hreported
        cases h
        exact .inr (.inl ⟨lines, p, rfl, hrows, hreported, rfl⟩)
      · cases h

theorem length_drafts : (source.drafts setting lines).length = lines.eraseDups.length := by
  rw [drafts, List.length_map, Retrieval.firsts_eq_eraseDups]

theorem linkCount_of_served (h : source.served setting options s = .ok lines) :
    source.linkCount setting options s = (source.drafts setting lines).length := by
  rw [linkCount, h, length_drafts]

theorem writes_of_unserved {p : Retrieval.Problem}
    (h : source.served setting options s = .error p) : source.writes setting options s = [] := by
  rw [writes, h]

theorem writes_of_served (h : source.served setting options s = .ok lines) :
    source.writes setting options s = (source.rows setting s lines).toOption.getD [] := by
  rw [writes, h]

theorem marks_of_unserved {p : Retrieval.Problem}
    (h : source.served setting options s = .error p) : source.marks setting options s = [] := by
  rw [marks, h]

theorem marks_of_refused {p : StoreProblem} (h : source.served setting options s = .ok lines)
    (hrows : source.rows setting s lines = .error p) : source.marks setting options s = [] := by
  rw [marks, h]
  dsimp only
  rw [hrows]

theorem marks_of_stored {rows : List ConfigValues}
    (h : source.served setting options s = .ok lines)
    (hrows : source.rows setting s lines = .ok rows) :
    source.marks setting options s = source.stamps setting s lines := by
  rw [marks, h]
  dsimp only
  rw [hrows]

theorem rows_eq_ok {rows : List ConfigValues} (h : source.rows setting s lines = .ok rows) :
    rows = (source.drafts setting lines).map (Store.values setting.now) ∧
      (source.drafts setting lines).length ≤ s.store.database.numbersLeft ∧
      ∀ d ∈ source.drafts setting lines, Store.Stored s.store setting.now d := by
  unfold Source.rows at h
  split at h
  · rename_i hempty
    rw [List.isEmpty_iff.mp hempty]
    cases h
    exact ⟨rfl, Nat.zero_le _, by simp⟩
  · exact Store.rowsFor_eq_ok h

theorem writes_length_le :
    (source.writes setting options s).length ≤ source.linkCount setting options s := by
  cases hserved : source.served setting options s with
  | error p =>
    rw [writes_of_unserved hserved]
    exact Nat.zero_le _
  | ok lines =>
    rw [writes_of_served hserved, linkCount_of_served hserved]
    cases hrows : source.rows setting s lines with
    | error p => exact Nat.zero_le _
    | ok rows =>
      rw [(rows_eq_ok hrows).1]
      exact (List.length_map _).le

theorem writes_length_le_numbersLeft :
    (source.writes setting options s).length ≤ s.store.database.numbersLeft := by
  cases hserved : source.served setting options s with
  | error p =>
    rw [writes_of_unserved hserved]
    exact Nat.zero_le _
  | ok lines =>
    rw [writes_of_served hserved]
    cases hrows : source.rows setting s lines with
    | error p => exact Nat.zero_le _
    | ok rows =>
      obtain ⟨rfl, hleft, -⟩ := rows_eq_ok hrows
      show ((source.drafts setting lines).map _).length ≤ _
      rw [List.length_map]
      exact hleft

end Source

/-! ## Equal frames and numbers, equal verdicts -/

section frame

variable {setting : Setting} {options : Options.FetchOptions} {s t : State} {source : Source}
  {lines : List Text} (h : s.frame options.proxy = t.frame options.proxy)

theorem State.frame_store {proxy : Option Text} (h : s.frame proxy = t.frame proxy) :
    s.store.frame = t.store.frame := congrArg Frame.store h

theorem State.frame_client {proxy : Option Text} (h : s.frame proxy = t.frame proxy) :
    Retrieval.clientProblem? s.clients proxy = Retrieval.clientProblem? t.clients proxy :=
  congrArg Frame.client h

include h

theorem Source.served_congr :
    source.served setting options s = source.served setting options t := by
  have hfetch := Retrieval.fetch_congr setting.routes setting.method
    ((Job.mk source []).request setting options) (State.frame_client h)
  rw [served, hfetch.1, served]

theorem Source.linkCount_congr :
    source.linkCount setting options s = source.linkCount setting options t := by
  rw [linkCount, served_congr h, linkCount]

theorem Source.rows_congr
    (hleft : Store.SameNumbers (source.drafts setting lines).length s.store t.store) :
    source.rows setting s lines = source.rows setting t lines := by
  rw [rows, Store.rowsFor_congr (State.frame_store h) hleft, rows]

theorem Source.stamps_congr : source.stamps setting s lines = source.stamps setting t lines := by
  rw [stamps, Store.stampFor_congr (State.frame_store h), stamps]

theorem Source.rows_congr_of_served (hserved : source.served setting options s = .ok lines)
    (hleft : Store.SameNumbers (source.linkCount setting options s) s.store t.store) :
    source.rows setting s lines = source.rows setting t lines := by
  rw [linkCount_of_served hserved] at hleft
  exact rows_congr h hleft

variable (hrows : ∀ lines, source.served setting options s = .ok lines →
  source.rows setting s lines = source.rows setting t lines)

include hrows

theorem Source.verdict_congr :
    source.verdict setting options s = source.verdict setting options t := by
  unfold verdict
  rw [← served_congr h]
  cases hserved : source.served setting options s with
  | error p => rfl
  | ok lines =>
    dsimp only
    rw [hrows lines hserved]

theorem Source.writes_congr :
    source.writes setting options s = source.writes setting options t := by
  unfold writes
  rw [← served_congr h]
  cases hserved : source.served setting options s with
  | error p => rfl
  | ok lines =>
    dsimp only
    rw [hrows lines hserved]

theorem Source.marks_congr :
    source.marks setting options s = source.marks setting options t := by
  unfold marks
  rw [← served_congr h]
  cases hserved : source.served setting options s with
  | error p => rfl
  | ok lines =>
    dsimp only
    rw [hrows lines hserved, stamps_congr h]

end frame

/-! ## Drafts -/

section drafts

variable {setting : Setting} {source : Source} {lines : List Text} {link : Text} {d : Draft}

@[simp] theorem Job.draft_owner (owner : Option Int) :
    (Job.draft setting owner link).owner = owner := by
  unfold Job.draft
  dsimp only
  split <;> rfl

@[simp] theorem Job.draft_link (owner : Option Int) :
    (Job.draft setting owner link).link = some link := by
  unfold Job.draft
  dsimp only
  split <;> rfl

@[simp] theorem Job.draft_addedAt (owner : Option Int) :
    (Job.draft setting owner link).addedAt = none := by
  unfold Job.draft
  dsimp only
  split <;> rfl

@[simp] theorem Job.draft_lastSeenAt (owner : Option Int) :
    (Job.draft setting owner link).lastSeenAt = some setting.now.timestamp := by
  unfold Job.draft
  dsimp only
  split <;> rfl

theorem Source.owner_of_mem_drafts (h : d ∈ source.drafts setting lines) :
    d.owner = source.subscription := by
  obtain ⟨link, -, rfl⟩ := List.mem_map.mp h
  exact Job.draft_owner _

theorem Source.lastSeenAt_of_mem_drafts (h : d ∈ source.drafts setting lines) :
    d.lastSeenAt = some setting.now.timestamp := by
  obtain ⟨link, -, rfl⟩ := List.mem_map.mp h
  exact Job.draft_lastSeenAt _

end drafts

/-! ## The steps -/

namespace Job

variable {setting : Setting} {options : Options.FetchOptions} {s : State} {j : Job}
  {lines : List Text}

theorem fetch_phase :
    (j.fetch setting options s).1 =
      match j.source.served setting options s with
      | .error p => .finished (.ok (j.source.outcome [] 0 (some (.retrieval p))))
      | .ok lines => .fetched lines := by
  have hrequest : (Job.mk j.source []).request setting options = j.request setting options := rfl
  unfold fetch Source.served
  rw [hrequest]
  dsimp only
  cases (Retrieval.fetch setting.routes setting.method s.clients
    (j.request setting options)).result <;> rfl

theorem fetch_store : (j.fetch setting options s).2.store = s.store := by
  unfold fetch
  dsimp only
  split <;> rfl

theorem fetch_frame :
    (j.fetch setting options s).2.frame options.proxy = s.frame options.proxy := by
  have hclient : Retrieval.clientProblem? (Retrieval.fetch setting.routes setting.method s.clients
      (j.request setting options)).clients options.proxy =
        Retrieval.clientProblem? s.clients options.proxy :=
    Retrieval.clientProblem?_fetch setting.routes setting.method (j.request setting options)
  unfold State.frame
  rw [fetch_store, Frame.mk.injEq]
  refine ⟨?_, rfl⟩
  rw [← hclient]
  unfold fetch
  dsimp only
  split <;> rfl

theorem store_eq (lines : List Text) :
    j.store setting lines s =
      let s' := s.logged (linkEvents setting (Retrieval.dedupe setting.verbose lines))
      match j.source.rows setting s lines with
      | .ok rows =>
        (.stored lines.length (j.source.drafts setting lines),
          { s' with store := { s.store with database := s.store.database.putAll rows } })
      | .error p =>
        if p.isReported then j.fail lines.length (.store p) s' else (.finished (.error p), s') := by
  have hdrafts : (Retrieval.dedupe setting.verbose lines).1.map
      (draft setting j.source.subscription) = j.source.drafts setting lines := rfl
  unfold store Source.rows
  dsimp only
  rw [hdrafts]
  cases hempty : j.source.drafts setting lines with
  | nil => rfl
  | cons d ds =>
    dsimp only [List.isEmpty_cons]
    have hstore : ∀ events, (s.logged events).store = s.store := fun _ => rfl
    rw [hstore, Store.upsert_eq]
    cases s.store.rowsFor setting.now (d :: ds) <;> rfl

theorem store_phase :
    (j.store setting lines s).1 =
      match j.source.rows setting s lines with
      | .ok _ => .stored lines.length (j.source.drafts setting lines)
      | .error p =>
        if p.isReported then
          .finished (.ok (j.source.outcome [] lines.length (some (.store p))))
        else .finished (.error p) := by
  rw [store_eq]
  cases j.source.rows setting s lines with
  | ok rows => rfl
  | error p =>
    dsimp only
    split <;> rfl

theorem store_state :
    (j.store setting lines s).2.clients = s.clients ∧
      (j.store setting lines s).2.store =
        { s.store with
          database :=
            s.store.database.putAll ((j.source.rows setting s lines).toOption.getD []) } := by
  rw [store_eq]
  cases j.source.rows setting s lines with
  | ok rows => exact ⟨rfl, rfl⟩
  | error p =>
    dsimp only
    split <;> exact ⟨rfl, rfl⟩

theorem store_frame (proxy : Option Text) :
    (j.store setting lines s).2.frame proxy = s.frame proxy := by
  rw [State.frame, store_state.1, store_state.2, Store.frame_putAll, State.frame]

theorem mark_state (rawCount : Nat) :
    (j.mark setting rawCount (j.source.drafts setting lines) s).2.clients = s.clients ∧
      (j.mark setting rawCount (j.source.drafts setting lines) s).2.store =
        { s.store with
          database :=
            s.store.database.stamped (j.source.stamps setting s lines) setting.now } := by
  unfold mark Source.stamps
  cases j.source.subscription with
  | none => exact ⟨rfl, by rw [Database.stamped_nil]; rfl⟩
  | some id =>
    cases j.source.drafts setting lines with
    | nil => exact ⟨rfl, by simp only [List.isEmpty_nil, if_true, Database.stamped_nil]; rfl⟩
    | cons d ds =>
      dsimp only [List.isEmpty_cons]
      have hstore : ∀ events, (s.logged events).store = s.store := fun _ => rfl
      rw [hstore, Store.mark_eq]
      cases hstamp : s.store.stampFor id (some setting.now.timestamp) with
      | ok at? =>
        obtain ⟨i, hi, rfl⟩ := Store.stampFor_eq_ok hstamp
        obtain rfl := Instant.eq_of_ofTimestamp?_timestamp hi
        refine ⟨rfl, ?_⟩
        dsimp only
        rw [Database.setFetched_eq]
        rfl
      | error p =>
        simp only [Bool.false_eq_true, if_false, Database.stamped_nil]
        split <;> exact ⟨rfl, rfl⟩

theorem mark_frame (rawCount : Nat) (configs : List Draft) (proxy : Option Text) :
    (j.mark setting rawCount configs s).2.frame proxy = s.frame proxy := by
  have hkept : ∀ (t : State) (id : Int),
      ({ t with store := (t.store.mark id (some setting.now.timestamp)).2 } : State).frame proxy =
        t.frame proxy := by
    intro t id
    unfold State.frame
    rw [Store.frame_mark]
  unfold mark
  cases j.source.subscription with
  | none => rfl
  | some id =>
    dsimp only
    split
    · rfl
    · split
      · exact hkept (s.logged _) id
      · split <;> exact hkept (s.logged _) id

theorem advance_frame (phase : Phase) :
    (j.advance setting options phase s).2.frame options.proxy = s.frame options.proxy := by
  cases phase with
  | waiting => exact fetch_frame
  | fetched lines => exact store_frame _
  | stored rawCount configs => exact mark_frame rawCount configs _
  | finished result => rfl

theorem mark_phase (rawCount : Nat)
    (h : ∀ d ∈ j.source.drafts setting lines, Store.Stored s.store setting.now d) :
    (j.mark setting rawCount (j.source.drafts setting lines) s).1 =
      .finished (.ok (j.source.outcome (j.source.drafts setting lines) rawCount none)) := by
  unfold mark
  cases howner : j.source.subscription with
  | none => rfl
  | some id =>
    cases hdrafts : j.source.drafts setting lines with
    | nil => rfl
    | cons d ds =>
      dsimp only [List.isEmpty_cons]
      have hstore : ∀ events, (s.logged events).store = s.store := fun _ => rfl
      have hdraft : d ∈ j.source.drafts setting lines := hdrafts ▸ List.mem_cons_self
      have hstamp := (h d hdraft).stampFor_eq ((Source.owner_of_mem_drafts hdraft).trans howner)
        (Source.lastSeenAt_of_mem_drafts hdraft)
      rw [hstore, Store.mark_eq, hstamp]
      unfold Store.checkRefusal
      cases s.store.refusal .mark <;> rfl

end Job

/-! ## How far a source has come -/

section phases

variable (setting : Setting) (options : Options.FetchOptions) (s : State) (source : Source)

/-- What a source can have come to, when its first step is taken in a state with the frame of `s`.
-/
def Phase.Due : Phase → Prop
  | .waiting => True
  | .fetched lines => source.served setting options s = .ok lines
  | .stored rawCount configs =>
    ∃ lines rows, source.served setting options s = .ok lines ∧
      source.rows setting s lines = .ok rows ∧
      rawCount = lines.length ∧ configs = source.drafts setting lines
  | .finished result => result = source.verdict setting options s

/-- The rows that a source has written so far. -/
def Phase.written : Phase → List ConfigValues
  | .waiting => []
  | .fetched _ => []
  | .stored _ _ => source.writes setting options s
  | .finished _ => source.writes setting options s

/-- The subscriptions that a source has marked so far. -/
def Phase.marked : Phase → List Int
  | .waiting => []
  | .fetched _ => []
  | .stored _ _ => []
  | .finished _ => source.marks setting options s

/-- How many numbers a source may still need. -/
def Phase.pending : Phase → Nat
  | .waiting => source.linkCount setting options s
  | .fetched _ => source.linkCount setting options s
  | .stored _ _ => 0
  | .finished _ => 0

/-- The greatest number of steps that a source may still take. -/
def Phase.remaining : Phase → Nat
  | .waiting => 3
  | .fetched _ => 2
  | .stored _ _ => 1
  | .finished _ => 0

end phases

theorem Phase.eq_finished_of_remaining {phase : Phase} (h : phase.remaining ≤ 0) :
    ∃ result, phase = .finished result := by
  cases phase with
  | finished result => exact ⟨result, rfl⟩
  | _ => simp [remaining] at h

/-- What `n` steps of a source in the state `t` come to, with `s` as the state before the run. -/
structure Advanced (setting : Setting) (options : Options.FetchOptions) (s : State)
    (source : Source) (n : Nat) (phase : Phase) (t : State) (r : Phase × State) : Prop where
  due : r.1.Due setting options s source
  remaining : r.1.remaining ≤ phase.remaining - n
  frame : r.2.frame options.proxy = t.frame options.proxy
  numbers : Store.SameNumbers (r.1.pending setting options s source) s.store r.2.store
  store : ∃ rows ids,
    r.1.written setting options s source = phase.written setting options s source ++ rows ∧
    r.1.marked setting options s source = phase.marked setting options s source ++ ids ∧
    rows.length + r.1.pending setting options s source ≤ phase.pending setting options s source ∧
    r.2.store =
      { t.store with database := (t.store.database.putAll rows).stamped ids setting.now }

namespace Job

variable {setting : Setting} {options : Options.FetchOptions} {s t : State} {j : Job}
  {phase : Phase}

theorem fetch_advanced (hframe : t.frame options.proxy = s.frame options.proxy)
    (hleft : Store.SameNumbers (j.source.linkCount setting options s) s.store t.store) :
    Advanced setting options s j.source 1 .waiting t (j.fetch setting options t) := by
  have hphase := @fetch_phase setting options t j
  have hstore := @fetch_store setting options t j
  have hframe' := @fetch_frame setting options t j
  rw [Source.served_congr hframe] at hphase
  generalize j.fetch setting options t = r at hphase hstore hframe' ⊢
  obtain ⟨phase, t'⟩ := r
  cases hserved : j.source.served setting options s with
  | error p =>
    rw [hserved] at hphase
    subst hphase
    refine ⟨?_, Nat.zero_le _, hframe', Store.sameNumbers_zero, [], [], ?_, ?_, Nat.zero_le _, ?_⟩
    · simp only [Phase.Due, Source.verdict, hserved]
    · exact Source.writes_of_unserved hserved
    · exact Source.marks_of_unserved hserved
    · rw [Database.putAll_nil, Database.stamped_nil]
      exact hstore
  | ok lines =>
    rw [hserved] at hphase
    subst hphase
    refine ⟨hserved, Nat.le_refl _, hframe', ?_, [], [], rfl, rfl, (Nat.zero_add _).le, ?_⟩
    · show Store.SameNumbers (j.source.linkCount setting options s) s.store t'.store
      rw [show t'.store = t.store from hstore]
      exact hleft
    · rw [Database.putAll_nil, Database.stamped_nil]
      exact hstore

theorem store_advanced {lines : List Text} (hframe : t.frame options.proxy = s.frame options.proxy)
    (hleft : Store.SameNumbers (j.source.linkCount setting options s) s.store t.store)
    (hserved : j.source.served setting options s = .ok lines) :
    Advanced setting options s j.source 1 (.fetched lines) t (j.store setting lines t) := by
  have hphase := @store_phase setting t j lines
  have hstore := (@store_state setting t j lines).2
  have hframe' := @store_frame setting t j lines options.proxy
  rw [← Source.rows_congr_of_served hframe.symm hserved hleft] at hphase hstore
  generalize j.store setting lines t = r at hphase hstore hframe' ⊢
  obtain ⟨phase, t'⟩ := r
  cases hrows : j.source.rows setting s lines with
  | ok rows =>
    rw [hrows] at hphase hstore
    subst hphase
    have hwrites : j.source.writes setting options s = rows := by
      rw [Source.writes_of_served hserved, hrows]
      rfl
    refine ⟨⟨lines, rows, hserved, hrows, rfl, rfl⟩, Nat.le_refl _, hframe',
      Store.sameNumbers_zero, rows, [], hwrites, rfl, ?_, ?_⟩
    · rw [← hwrites]
      exact Source.writes_length_le
    · rw [Database.stamped_nil]
      exact hstore
  | error p =>
    rw [hrows] at hphase hstore
    have hphase : phase = .finished (j.source.verdict setting options s) := by
      simp only [Source.verdict, hserved, hrows]
      dsimp only at hphase
      rw [hphase]
      split <;> rfl
    subst hphase
    refine ⟨rfl, Nat.zero_le _, hframe', Store.sameNumbers_zero, [], [], ?_, ?_, Nat.zero_le _, ?_⟩
    · refine (Source.writes_of_served hserved).trans ?_
      rw [hrows]
      rfl
    · exact Source.marks_of_refused hserved hrows
    · rw [Database.stamped_nil]
      exact hstore

theorem mark_advanced {lines : List Text} {rows : List ConfigValues}
    (hframe : t.frame options.proxy = s.frame options.proxy)
    (hserved : j.source.served setting options s = .ok lines)
    (hrows : j.source.rows setting s lines = .ok rows) :
    Advanced setting options s j.source 1
      (.stored lines.length (j.source.drafts setting lines)) t
      (j.mark setting lines.length (j.source.drafts setting lines) t) := by
  have hstored : ∀ d ∈ j.source.drafts setting lines, Store.Stored t.store setting.now d :=
    fun d hd => ((Source.rows_eq_ok hrows).2.2 d hd).congr (State.frame_store hframe.symm)
  have hphase := mark_phase lines.length hstored
  have hstore := (@mark_state setting t j lines lines.length).2
  have hframe' := @mark_frame setting t j lines.length (j.source.drafts setting lines) options.proxy
  rw [Source.stamps_congr hframe] at hstore
  generalize j.mark setting lines.length (j.source.drafts setting lines) t = r
    at hphase hstore hframe' ⊢
  obtain ⟨phase, t'⟩ := r
  subst hphase
  refine ⟨?_, Nat.zero_le _, hframe', Store.sameNumbers_zero, [], _, (List.append_nil _).symm, ?_,
    Nat.zero_le _, hstore⟩
  · simp only [Phase.Due, Source.verdict, hserved, hrows]
  · exact Source.marks_of_stored hserved hrows

/-- **What one step of a source does**, whatever other sources have done before, as long as they
have left it the numbers that it needs. -/
theorem advance_advanced (hframe : t.frame options.proxy = s.frame options.proxy)
    (hdue : phase.Due setting options s j.source)
    (hleft : Store.SameNumbers (phase.pending setting options s j.source) s.store t.store) :
    Advanced setting options s j.source 1 phase t (j.advance setting options phase t) := by
  cases phase with
  | waiting => exact fetch_advanced hframe hleft
  | fetched lines => exact store_advanced hframe hleft hdue
  | stored rawCount configs =>
    obtain ⟨lines, rows, hserved, hrows, rfl, rfl⟩ := hdue
    exact mark_advanced hframe hserved hrows
  | finished result =>
    refine ⟨hdue, Nat.zero_le _, rfl, hleft, [], [], (List.append_nil _).symm,
      (List.append_nil _).symm, Nat.zero_le _, ?_⟩
    rw [Database.putAll_nil, Database.stamped_nil]
    rfl

theorem advanceBy_advanced (hframe : t.frame options.proxy = s.frame options.proxy)
    (hdue : phase.Due setting options s j.source)
    (hleft : Store.SameNumbers (phase.pending setting options s j.source) s.store t.store)
    (n : Nat) :
    Advanced setting options s j.source n phase t (j.advanceBy setting options n phase t) := by
  induction n generalizing phase t with
  | zero =>
    refine ⟨hdue, Nat.le_refl _, rfl, hleft, [], [], (List.append_nil _).symm,
      (List.append_nil _).symm, (Nat.zero_add _).le, ?_⟩
    rw [Database.putAll_nil, Database.stamped_nil]
    rfl
  | succ n ih =>
    have hstep := advance_advanced hframe hdue hleft
    rw [advanceBy]
    generalize j.advance setting options phase t = r at hstep ⊢
    obtain ⟨phase', t'⟩ := r
    obtain ⟨rows, ids, hwritten, hmarked, hpending, hstore⟩ := hstep.store
    dsimp only at hwritten hmarked hpending hstore ⊢
    have hrest := ih (hstep.frame.trans hframe) hstep.due hstep.numbers
    obtain ⟨rows', ids', hwritten', hmarked', hpending', hstore'⟩ := hrest.store
    have hremaining : phase'.remaining ≤ phase.remaining - 1 := hstep.remaining
    have hremaining' := hrest.remaining
    dsimp only at hpending' hremaining'
    refine ⟨hrest.due, by omega, hrest.frame.trans hstep.frame, hrest.numbers, rows ++ rows',
      ids ++ ids', ?_, ?_, ?_, ?_⟩
    · rw [hwritten', hwritten, List.append_assoc]
    · rw [hmarked', hmarked, List.append_assoc]
    · rw [List.length_append]
      omega
    · rw [hstore', hstore, Database.putAll_append, Database.stamped_append,
        Database.putAll_stamped]

/-! ## A source without a break -/

/-- **A source comes to its verdict**, writes its rows, marks its subscription and leaves everything
else in the store as it was. -/
theorem process_eq (j : Job) (setting : Setting) (options : Options.FetchOptions) (s : State) :
    (j.process setting options s).1 = j.source.verdict setting options s ∧
      (j.process setting options s).2.frame options.proxy = s.frame options.proxy ∧
      (j.process setting options s).2.store =
        { s.store with
          database := (s.store.database.putAll (j.source.writes setting options s)).stamped
            (j.source.marks setting options s) setting.now } := by
  have hsteps := @advanceBy_advanced setting options s s j .waiting rfl trivial rfl 3
  unfold process
  generalize j.advanceBy setting options 3 .waiting s = r at hsteps ⊢
  obtain ⟨phase, t⟩ := r
  obtain ⟨rows, ids, hwritten, hmarked, -, hstore⟩ := hsteps.store
  obtain ⟨result, rfl⟩ := Phase.eq_finished_of_remaining hsteps.remaining
  refine ⟨hsteps.due, hsteps.frame, ?_⟩
  rw [Phase.written, Phase.written, List.nil_append] at hwritten
  rw [Phase.marked, Phase.marked, List.nil_append] at hmarked
  rw [hwritten, hmarked]
  exact hstore

end Job

end Run

end LinkHarvest
