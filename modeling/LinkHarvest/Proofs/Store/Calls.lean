import LinkHarvest.Proofs.Fallible
import LinkHarvest.Proofs.Store.Rows
import LinkHarvest.Proofs.Time.Instant
import LinkHarvest.Store.Store

/-!
# What the calls of a run do to the store

A run writes with two calls. Each is split here into what it decides and what it then writes:
`upsert_eq` and `mark_eq` say that a call that decides for an answer writes exactly this answer, and
that a call that fails writes nothing. What a mark decides depends on the `frame` of the store
alone, which no call of a run changes: whether the store is open, what its surroundings refuse, and
which subscriptions there are. What an upsert decides depends on the numbers that are left as well,
of which every row takes one (`rowsFrom_eq_ok`). While there are enough of them, the answer of a call
does not depend on what other sources have stored.
-/

namespace LinkHarvest.Store

open Database Fallible

/-! ## The frame -/

/-- What the answers to the calls of a run depend on. -/
structure Frame where
  isOpen : Bool
  refusal : StoreCall → Option Text
  subscribed : List Int

/-- The frame of a store. -/
def frame (s : Store) : Frame :=
  ⟨s.isOpen, s.refusal, s.database.subscriptions.map Subscription.id⟩

variable {s t : Store} {now : Instant} {drafts : List Draft} {id : Int}

theorem isSome_subscription? (db : Database) (id : Int) :
    (db.subscription? id).isSome = (db.subscriptions.map Subscription.id).contains id := by
  rw [Bool.eq_iff_iff, subscription?, List.find?_isSome]
  simp

theorem knows_eq (db : Database) (owner : Option Int) :
    db.knows owner = (owner.map (db.subscriptions.map Subscription.id).contains).getD true := by
  cases owner <;> simp [knows, isSome_subscription?]

theorem knows_congr (h : s.frame = t.frame) : s.database.knows = t.database.knows := by
  have hids : s.database.subscriptions.map Subscription.id =
      t.database.subscriptions.map Subscription.id := congrArg Frame.subscribed h
  funext owner
  rw [knows_eq, knows_eq, hids]

theorem knows_of_mem {db : Database} {sub : Subscription} (h : sub ∈ db.subscriptions) :
    db.knows (some sub.id) = true := by
  rw [knows_eq, Option.map_some, Option.getD_some]
  exact List.contains_iff_mem.mpr (List.mem_map_of_mem h)

/-! ## Reads -/

theorem get_eq_ok {found : Subscription} :
    s.get id = .ok found ↔
      s.refusal .get = none ∧ s.isOpen = true ∧ checkInteger id = .ok () ∧
        s.database.subscription? id = some found := by
  unfold get checkRefusal checkOpen
  cases s.refusal .get with
  | some message => simp
  | none =>
    cases s.isOpen with
    | false => simp
    | true =>
      cases checkInteger id with
      | error p => simp
      | ok _ => cases s.database.subscription? id <;> simp

theorem list_eq_ok {subs : List Subscription} :
    s.list = .ok subs ↔
      s.refusal .list = none ∧ s.isOpen = true ∧ subs = s.database.subscriptions := by
  unfold list checkRefusal checkOpen
  cases s.refusal .list with
  | some message => simp
  | none => cases s.isOpen <;> simp [eq_comm]

/-! ## Upserts -/

/-- The row that a draft stands for once its remark is read, or why there can be none. -/
def rowWith (knows : Option Int → Bool) (isLeft : Bool) (d : Dated) (remark : Option Text) :
    Except StoreProblem ConfigValues :=
  if isLeft then
    match d.draft.link with
    | none => .error (.constraint .saving .linkGiven)
    | some link =>
      if knows d.draft.owner then
        .ok ⟨d.draft.owner, link, d.draft.protocol, remark, d.addedAt, d.lastSeenAt⟩
      else .error (.constraint .saving .ownerExists)
  else .error (.constraint .saving .numberLeft)

/-- The row that a draft stands for when a number is left, or none, or why there can be none. -/
def rowFor (knows : Option Int → Bool) (isLeft : Bool) (d : Dated) :
    Except StoreProblem ConfigValues := do
  (d.draft.owner.map checkInteger).getD (.ok ())
  match d.draft.remark with
  | none => rowWith knows isLeft d none
  | some t => rowWith knows isLeft d (some (← columnText t))

/-- The rows that drafts stand for when so many numbers are left, or why there can be none. -/
def rowsFrom (knows : Option Int → Bool) : Nat → List Dated →
    Except StoreProblem (List ConfigValues)
  | _, [] => .ok []
  | left, d :: all => do
    let v ← rowFor knows (0 < left) d
    let rows ← rowsFrom knows (left - 1) all
    return v :: rows

/-- The rows that an upsert writes, or why it fails. -/
def rowsFor (s : Store) (now : Instant) (drafts : List Draft) :
    Except StoreProblem (List ConfigValues) := do
  s.checkRefusal (.upsert (drafts.map Draft.owner))
  let all ← drafts.mapM (dated now)
  if all.isEmpty then return []
  s.checkOpen .saving
  rowsFrom s.database.knows s.database.numbersLeft all

theorem map_put_rowWith (db : Database) (d : Dated) (remark : Option Text) :
    (db.upsert (d.draft.link.map fun link =>
      ⟨d.draft.owner, link, d.draft.protocol, remark, d.addedAt, d.lastSeenAt⟩)).mapError
        (.constraint .saving) =
      (rowWith db.knows (0 < db.numbersLeft) d remark).map db.put := by
  rw [Database.upsert_eq]
  unfold rowWith
  by_cases hleft : 0 < db.numbersLeft
  · rw [if_pos hleft, if_pos (decide_eq_true hleft)]
    cases d.draft.link with
    | none => rfl
    | some link =>
      dsimp only [Option.map_some, Option.elim_some]
      split <;> rfl
  · rw [if_neg hleft, if_neg (mt of_decide_eq_true hleft)]
    rfl

theorem upsertOne_eq (db : Database) (d : Dated) :
    upsertOne db d = (rowFor db.knows (0 < db.numbersLeft) d).map db.put := by
  unfold upsertOne rowFor
  cases (d.draft.owner.map checkInteger).getD (.ok ()) with
  | error p => rfl
  | ok _ =>
    cases d.draft.remark with
    | none => exact map_put_rowWith db d none
    | some t =>
      simp only [ok_bind]
      cases columnText t with
      | error p => rfl
      | ok t => exact map_put_rowWith db d (some t)

theorem foldlM_upsertOne (db : Database) (all : List Dated) :
    all.foldlM upsertOne db = (rowsFrom db.knows db.numbersLeft all).map db.putAll := by
  induction all generalizing db with
  | nil => rfl
  | cons d all ih =>
    rw [List.foldlM_cons, rowsFrom, upsertOne_eq]
    cases rowFor db.knows (0 < db.numbersLeft) d with
    | error p => rfl
    | ok v =>
      have hknows : (db.put v).knows = db.knows := rfl
      rw [map_ok, ok_bind, ih, hknows, put_numbersLeft, ok_bind]
      cases rowsFrom db.knows (db.numbersLeft - 1) all <;> rfl

/-- **An upsert writes all its rows or nothing.** -/
theorem upsert_eq (s : Store) (now : Instant) (drafts : List Draft) :
    s.upsert now drafts =
      match s.rowsFor now drafts with
      | .ok rows => (.ok (), { s with database := s.database.putAll rows })
      | .error p => (.error p, s) := by
  unfold upsert rowsFor
  cases s.checkRefusal (.upsert (drafts.map Draft.owner)) with
  | error p => rfl
  | ok _ =>
    cases drafts.mapM (dated now) with
    | error p => rfl
    | ok all =>
      cases all with
      | nil => rfl
      | cons d all =>
        simp only [ok_bind, foldlM_upsertOne, List.isEmpty_cons]
        cases s.checkOpen .saving with
        | error p => rfl
        | ok _ =>
          cases rowsFrom s.database.knows s.database.numbersLeft (d :: all) <;> rfl

def values (now : Instant) (d : Draft) : ConfigValues where
  owner := d.owner
  link := d.link.getD []
  protocol := d.protocol
  remark := d.remark.bind LooseText.toText?
  addedAt := (Instant.ofTimestamp? (d.addedAt.getD now.timestamp)).getD now
  lastSeenAt := (Instant.ofTimestamp? (d.lastSeenAt.getD now.timestamp)).getD now

theorem instant_eq_ok {t : Timestamp} {i : Instant} (h : instant t = .ok i) :
    Instant.ofTimestamp? t = some i := by
  unfold instant at h
  split at h
  · cases h
    assumption
  · cases h

theorem instant_of_eq_some {t : Timestamp} {i : Instant} (h : Instant.ofTimestamp? t = some i) :
    instant t = .ok i := by
  unfold instant
  rw [h]

theorem columnText_eq_ok {t : LooseText} {text : Text} (h : columnText t = .ok text) :
    t.toText? = some text := by
  unfold columnText at h
  split at h
  · cases h
    assumption
  · cases h

theorem dated_eq_ok {d : Draft} {e : Dated} (h : dated now d = .ok e) :
    instant (d.lastSeenAt.getD now.timestamp) = .ok e.lastSeenAt ∧ e.draft = d ∧
      e.addedAt = (values now d).addedAt ∧ e.lastSeenAt = (values now d).lastSeenAt := by
  obtain ⟨addedAt, hadded, h⟩ := bind_eq_ok.mp h
  obtain ⟨lastSeenAt, hseen, h⟩ := bind_eq_ok.mp h
  cases h
  refine ⟨hseen, rfl, ?_, ?_⟩
  · rw [values, instant_eq_ok hadded]
    rfl
  · rw [values, instant_eq_ok hseen]
    rfl

variable {knows : Option Int → Bool} {isLeft : Bool} {left : Nat} {d : Dated} {v : ConfigValues}
  {all : List Dated} {rows : List ConfigValues}

theorem rowWith_eq_ok {remark : Option Text} (h : rowWith knows isLeft d remark = .ok v) :
    knows d.draft.owner = true ∧
      v = ⟨d.draft.owner, d.draft.link.getD [], d.draft.protocol, remark, d.addedAt,
        d.lastSeenAt⟩ := by
  unfold rowWith at h
  split at h
  swap
  · cases h
  cases hlink : d.draft.link with
  | none =>
    rw [hlink] at h
    cases h
  | some link =>
    rw [hlink] at h
    dsimp only at h
    split at h
    · cases h
      exact ⟨by assumption, rfl⟩
    · cases h

theorem rowFor_eq_ok (h : rowFor knows isLeft d = .ok v) :
    (d.draft.owner.map checkInteger).getD (.ok ()) = .ok () ∧ knows d.draft.owner = true ∧
      v = ⟨d.draft.owner, d.draft.link.getD [], d.draft.protocol,
        d.draft.remark.bind LooseText.toText?, d.addedAt, d.lastSeenAt⟩ := by
  obtain ⟨_, hinteger, h⟩ := bind_eq_ok.mp h
  refine ⟨hinteger, ?_⟩
  cases hremark : d.draft.remark with
  | none =>
    rw [hremark] at h
    exact rowWith_eq_ok h
  | some t =>
    rw [hremark] at h
    obtain ⟨text, htext, h⟩ := bind_eq_ok.mp h
    rw [Option.bind_some, columnText_eq_ok htext]
    exact rowWith_eq_ok h

theorem isLeft_of_rowFor (h : rowFor knows isLeft d = .ok v) : isLeft = true := by
  have hwith : ∀ remark, rowWith knows isLeft d remark = .ok v → isLeft = true := by
    intro remark hwith
    unfold rowWith at hwith
    split at hwith
    · assumption
    · cases hwith
  obtain ⟨_, -, h⟩ := bind_eq_ok.mp h
  split at h
  · exact hwith none h
  · obtain ⟨text, -, h⟩ := bind_eq_ok.mp h
    exact hwith (some text) h

theorem rowsFrom_of_length_le (h : all.length ≤ left) :
    rowsFrom knows left all = all.mapM (rowFor knows true) := by
  induction all generalizing left with
  | nil => rfl
  | cons d all ih =>
    rw [List.length_cons] at h
    rw [rowsFrom, List.mapM_cons, ih (by omega), decide_eq_true (by omega : 0 < left)]

/-- **Rows are written when each of them could be and numbers are left for all of them.** -/
theorem rowsFrom_eq_ok :
    rowsFrom knows left all = .ok rows ↔
      all.length ≤ left ∧ all.mapM (rowFor knows true) = .ok rows := by
  constructor
  · intro h
    have hlength : all.length ≤ left := by
      induction all generalizing left rows with
      | nil => exact Nat.zero_le _
      | cons d all ih =>
        obtain ⟨v, hv, h⟩ := bind_eq_ok.mp h
        obtain ⟨rest, hrest, -⟩ := bind_eq_ok.mp h
        have hleft := of_decide_eq_true (isLeft_of_rowFor hv)
        have hrest := ih hrest
        rw [List.length_cons]
        omega
    rw [rowsFrom_of_length_le hlength] at h
    exact ⟨hlength, h⟩
  · rintro ⟨hlength, h⟩
    rw [rowsFrom_of_length_le hlength, h]

theorem rowsFrom_min : rowsFrom knows (min all.length left) all = rowsFrom knows left all := by
  induction all generalizing left with
  | nil => rfl
  | cons d all ih =>
    have hisLeft : decide (0 < min (d :: all).length left) = decide (0 < left) := by
      rw [List.length_cons, decide_eq_decide]
      omega
    have hrest : min (d :: all).length left - 1 = min all.length (left - 1) := by
      rw [List.length_cons]
      omega
    rw [rowsFrom, rowsFrom, hisLeft, hrest, ih]

/-- Without a number left, a row fails as before or for want of a number. -/
theorem rowFor_of_not_left :
    rowFor knows false d = rowFor knows true d ∨
      rowFor knows false d = .error (.constraint .saving .numberLeft) := by
  unfold rowFor
  cases (d.draft.owner.map checkInteger).getD (.ok ()) with
  | error p => exact .inl rfl
  | ok _ =>
    cases d.draft.remark with
    | none => exact .inr rfl
    | some t =>
      simp only [ok_bind]
      cases columnText t with
      | error p => exact .inl rfl
      | ok text => exact .inr rfl

theorem rowsFrom_of_fewer {fewer : Nat} (hfewer : fewer ≤ left)
    (h : rowsFrom knows left all = .error (.constraint .saving .numberLeft)) :
    rowsFrom knows fewer all = .error (.constraint .saving .numberLeft) := by
  induction all generalizing left fewer with
  | nil => cases h
  | cons d all ih =>
    cases left with
    | zero =>
      rw [Nat.le_zero.mp hfewer]
      exact h
    | succ left =>
      have hleft : decide (0 < left + 1) = true := decide_eq_true (Nat.succ_pos left)
      rw [rowsFrom, hleft] at h
      rcases bind_eq_error.mp h with h | ⟨v, hv, h⟩
      · have hfails : ∀ isLeft,
            rowFor knows isLeft d = .error (.constraint .saving .numberLeft) := by
          intro isLeft
          cases isLeft with
          | true => exact h
          | false => exact rowFor_of_not_left.elim (fun hsame => hsame.trans h) id
        rw [rowsFrom, hfails, error_bind]
      · cases fewer with
        | zero =>
          have hzero : decide (0 < 0) = false := rfl
          rw [rowsFrom, hzero]
          rcases @rowFor_of_not_left knows d with hsame | hfails
          · rw [hv] at hsame
            cases isLeft_of_rowFor hsame
          · rw [hfails, error_bind]
        | succ fewer =>
          have hfewer' : decide (0 < fewer + 1) = true := decide_eq_true (Nat.succ_pos fewer)
          rcases bind_eq_error.mp h with h | ⟨rows, -, h⟩
          · rw [rowsFrom, hfewer', hv, ok_bind, ih (by omega) h, error_bind]
          · cases h

theorem rowsFrom_map {f : Dated → Dated} {g : ConfigValues → ConfigValues}
    (h : ∀ isLeft d, rowFor knows isLeft (f d) = (rowFor knows isLeft d).map g) :
    rowsFrom knows left (all.map f) = (rowsFrom knows left all).map (List.map g) := by
  induction all generalizing left with
  | nil => rfl
  | cons d all ih =>
    rw [List.map_cons, rowsFrom, rowsFrom, h, ih]
    cases rowFor knows (0 < left) d with
    | error p => rfl
    | ok v => cases rowsFrom knows (left - 1) all <;> rfl

theorem exists_of_rowsFrom_eq_error {p : StoreProblem} (h : rowsFrom knows left all = .error p) :
    ∃ d ∈ all, ∃ isLeft, rowFor knows isLeft d = .error p := by
  induction all generalizing left with
  | nil => cases h
  | cons d all ih =>
    rcases bind_eq_error.mp h with h | ⟨v, -, h⟩
    · exact ⟨d, List.mem_cons_self, _, h⟩
    · rcases bind_eq_error.mp h with h | ⟨rest, -, h⟩
      · obtain ⟨e, he, hrow⟩ := ih h
        exact ⟨e, List.mem_cons_of_mem d he, hrow⟩
      · cases h

theorem rowFor_times {d e : Dated}
    (howner : e.draft.owner = d.draft.owner) (hlink : e.draft.link = d.draft.link)
    (hprotocol : e.draft.protocol = d.draft.protocol) (hremark : e.draft.remark = d.draft.remark) :
    rowFor knows isLeft e = (rowFor knows isLeft d).map fun v =>
      { v with addedAt := e.addedAt, lastSeenAt := e.lastSeenAt } := by
  have hwith : ∀ remark, rowWith knows isLeft e remark =
      (rowWith knows isLeft d remark).map fun v =>
        { v with addedAt := e.addedAt, lastSeenAt := e.lastSeenAt } := by
    intro remark
    unfold rowWith
    rw [howner, hlink, hprotocol]
    cases isLeft with
    | false => rfl
    | true =>
      cases d.draft.link with
      | none => rfl
      | some link => cases knows d.draft.owner <;> rfl
  unfold rowFor
  rw [howner, hremark]
  cases (d.draft.owner.map checkInteger).getD (.ok ()) with
  | error p => rfl
  | ok _ =>
    simp only [ok_bind]
    cases d.draft.remark with
    | none => exact hwith none
    | some remark =>
      dsimp only
      cases columnText remark with
      | error p => rfl
      | ok remark => exact hwith (some remark)

/-- What a successful upsert of at least one draft has found out. -/
structure Stored (s : Store) (now : Instant) (d : Draft) : Prop where
  isOpen : s.checkOpen .saving = .ok ()
  integer : (d.owner.map checkInteger).getD (.ok ()) = .ok ()
  knows : s.database.knows d.owner = true
  seen : ∃ i, instant (d.lastSeenAt.getD now.timestamp) = .ok i
  row : ∃ e v, dated now d = .ok e ∧ rowFor s.database.knows true e = .ok v

theorem stored_row {d : Draft} {e : Dated} (hopen : s.checkOpen .saving = .ok ())
    (hdated : dated now d = .ok e) (hrow : rowFor s.database.knows true e = .ok v) :
    v = values now d ∧ Stored s now d := by
  obtain ⟨hseen, hdraft, hadded, hlast⟩ := dated_eq_ok hdated
  obtain ⟨hinteger, hknows, rfl⟩ := rowFor_eq_ok hrow
  rw [hdraft] at hinteger hknows ⊢
  refine ⟨?_, hopen, hinteger, hknows, ⟨_, hseen⟩, e, _, hdated, hrow⟩
  rw [hadded, hlast]
  rfl

theorem stored_rows (hopen : s.checkOpen .saving = .ok ())
    (hdated : List.Forall₂ (fun d e => dated now d = .ok e) drafts all)
    (hrows : List.Forall₂ (fun e v => rowFor s.database.knows true e = .ok v) all rows) :
    rows = drafts.map (values now) ∧ ∀ d ∈ drafts, Stored s now d := by
  induction hdated generalizing rows with
  | nil =>
    cases hrows
    exact ⟨rfl, by simp⟩
  | cons hd _ ih =>
    cases hrows with
    | cons hrow hrows =>
      obtain ⟨rfl, hstored⟩ := stored_row hopen hd hrow
      obtain ⟨rfl, hrest⟩ := ih hrows
      exact ⟨rfl, List.forall_mem_cons.mpr ⟨hstored, hrest⟩⟩

theorem Stored.congr {d : Draft} (h : Stored s now d) (hframe : s.frame = t.frame) :
    Stored t now d := by
  have hknows := knows_congr hframe
  obtain ⟨hopen, -, -⟩ := Frame.mk.injEq .. ▸ hframe
  refine ⟨?_, h.integer, ?_, h.seen, ?_⟩
  · unfold checkOpen
    rw [← hopen]
    exact h.isOpen
  · rw [← hknows]
    exact h.knows
  · rw [← hknows]
    exact h.row

/-- **A successful upsert writes the values of its drafts**, in their order, and there are numbers
for them. -/
theorem rowsFor_eq_ok (h : s.rowsFor now drafts = .ok rows) :
    rows = drafts.map (values now) ∧ drafts.length ≤ s.database.numbersLeft ∧
      ∀ d ∈ drafts, Stored s now d := by
  obtain ⟨_, -, h⟩ := bind_eq_ok.mp h
  obtain ⟨all, hall, h⟩ := bind_eq_ok.mp h
  have hdated := mapM_eq_ok hall
  cases all with
  | nil =>
    cases hdated
    cases h
    exact ⟨rfl, Nat.zero_le _, by simp⟩
  | cons e all =>
    obtain ⟨_, hopen, h⟩ := bind_eq_ok.mp h
    obtain ⟨hleft, h⟩ := rowsFrom_eq_ok.mp h
    obtain ⟨hrows, hstored⟩ := stored_rows hopen hdated (mapM_eq_ok h)
    exact ⟨hrows, hdated.length_eq ▸ hleft, hstored⟩

theorem rowsFor_of_rows (hrefusal : s.checkRefusal (.upsert (drafts.map Draft.owner)) = .ok ())
    (hopen : drafts ≠ [] → s.checkOpen .saving = .ok ())
    (hleft : drafts.length ≤ s.database.numbersLeft)
    (h : ∀ d ∈ drafts, ∃ e v, dated now d = .ok e ∧ rowFor s.database.knows true e = .ok v) :
    s.rowsFor now drafts = .ok (drafts.map (values now)) := by
  obtain ⟨all, hall⟩ : ∃ all, drafts.mapM (dated now) = .ok all := by
    apply exists_mapM_eq_ok
    intro d hd
    obtain ⟨e, -, he, -⟩ := h d hd
    exact ⟨e, he⟩
  have hdated := mapM_eq_ok hall
  obtain ⟨rows, hrows⟩ : ∃ rows, all.mapM (rowFor s.database.knows true) = .ok rows := by
    apply exists_mapM_eq_ok
    intro e he
    obtain ⟨d, hd, hde⟩ := exists_mem_of_forall₂ hdated he
    obtain ⟨e', v, he', hv⟩ := h d hd
    cases hde.symm.trans he'
    exact ⟨v, hv⟩
  have hresult : ∃ rows, s.rowsFor now drafts = .ok rows := by
    unfold rowsFor
    rw [hrefusal, hall]
    have hlength : all.length ≤ s.database.numbersLeft := hdated.length_eq ▸ hleft
    have hresult := rowsFrom_eq_ok.mpr ⟨hlength, hrows⟩
    cases hdated with
    | nil => exact ⟨[], rfl⟩
    | cons _ _ =>
      rw [ok_bind, ok_bind, hopen (List.cons_ne_nil _ _)]
      exact ⟨rows, hresult⟩
  obtain ⟨rows', hrows'⟩ := hresult
  rw [hrows', (rowsFor_eq_ok hrows').1]

/-- Two stores have the same numbers left, as far as `n` rows can tell. -/
def SameNumbers (n : Nat) (s t : Store) : Prop :=
  min n s.database.numbersLeft = min n t.database.numbersLeft

theorem sameNumbers_zero : SameNumbers 0 s t := (Nat.zero_min _).trans (Nat.zero_min _).symm

theorem sameNumbers_of_eq {n : Nat} (h : s.database.numbersLeft = t.database.numbersLeft) :
    SameNumbers n s t := congrArg (min n) h

theorem sameNumbers_of_le {n : Nat} (hs : n ≤ s.database.numbersLeft)
    (ht : n ≤ t.database.numbersLeft) : SameNumbers n s t :=
  (Nat.min_eq_left hs).trans (Nat.min_eq_left ht).symm

/-- What an upsert decides depends on the frame and the numbers that are left. -/
theorem rowsFor_congr (h : s.frame = t.frame) (hleft : SameNumbers drafts.length s t) :
    s.rowsFor now drafts = t.rowsFor now drafts := by
  have hknows := knows_congr h
  obtain ⟨hopen, hrefusal, -⟩ := Frame.mk.injEq .. ▸ h
  unfold rowsFor
  simp only [checkRefusal, checkOpen, hopen, hrefusal, hknows]
  cases hall : drafts.mapM (dated now) with
  | error p => rfl
  | ok all =>
    have hlength : drafts.length = all.length := (mapM_eq_ok hall).length_eq
    unfold SameNumbers at hleft
    rw [hlength] at hleft
    simp only [ok_bind]
    rw [← @rowsFrom_min _ s.database.numbersLeft, hleft, rowsFrom_min]

/-! ## Marks -/

/-- The time that a mark writes, or why it fails. -/
def stampFor (s : Store) (id : Int) (fetchedAt : Option Timestamp) :
    Except StoreProblem (Option Instant) := do
  s.checkRefusal .mark
  let at? ← (fetchedAt.map fun t => (instant t).map some).getD (.ok none)
  s.checkOpen .changing
  checkInteger id
  if s.database.knows (some id) then return at? else throw (.noSubscription id)

/-- **A mark writes its time or nothing.** -/
theorem mark_eq (s : Store) (id : Int) (fetchedAt : Option Timestamp) :
    s.mark id fetchedAt =
      match s.stampFor id fetchedAt with
      | .ok at? => (.ok (), { s with database := s.database.setFetched id at? })
      | .error p => (.error p, s) := by
  unfold mark stampFor
  cases s.checkRefusal .mark with
  | error p => rfl
  | ok _ =>
    have hknows : s.database.knows (some id) = (s.database.subscription? id).isSome := rfl
    rw [hknows]
    cases fetchedAt with
    | none =>
      simp only [ok_bind, Option.map_none, Option.getD_none, pure_bind]
      cases s.checkOpen .changing with
      | error p => rfl
      | ok _ =>
        cases checkInteger id with
        | error p => rfl
        | ok _ => cases s.database.subscription? id <;> rfl
    | some t =>
      simp only [ok_bind, Option.map_some, Option.getD_some]
      cases instant t with
      | error p => rfl
      | ok i =>
        cases s.checkOpen .changing with
        | error p => rfl
        | ok _ =>
          cases checkInteger id with
          | error p => rfl
          | ok _ => cases s.database.subscription? id <;> rfl

theorem stampFor_congr (h : s.frame = t.frame) : s.stampFor = t.stampFor := by
  have hknows := knows_congr h
  obtain ⟨hopen, hrefusal, -⟩ := Frame.mk.injEq .. ▸ h
  funext id fetchedAt
  simp only [stampFor, checkRefusal, checkOpen, hopen, hrefusal, hknows]

theorem stampFor_eq_ok {t : Timestamp} {at? : Option Instant}
    (h : s.stampFor id (some t) = .ok at?) :
    ∃ i, Instant.ofTimestamp? t = some i ∧ at? = some i := by
  obtain ⟨_, -, h⟩ := bind_eq_ok.mp h
  obtain ⟨time, htime, h⟩ := bind_eq_ok.mp h
  obtain ⟨_, -, h⟩ := bind_eq_ok.mp h
  obtain ⟨_, -, h⟩ := bind_eq_ok.mp h
  obtain ⟨i, hi, rfl⟩ := map_eq_ok.mp htime
  split at h
  · cases h
    exact ⟨i, instant_eq_ok hi, rfl⟩
  · cases h

/-- A store that has taken a draft of a subscription also takes the time of its mark, unless its
surroundings refuse the call. -/
theorem Stored.stampFor_eq {d : Draft} {t : Timestamp} (h : Stored s now d)
    (howner : d.owner = some id) (hseen : d.lastSeenAt = some t) :
    s.stampFor id (some t) =
      (s.checkRefusal .mark).map fun _ => Instant.ofTimestamp? t := by
  obtain ⟨i, hi⟩ := h.seen
  rw [hseen, Option.getD_some] at hi
  have hopen : s.checkOpen .changing = .ok () := by
    have hopen := h.isOpen
    unfold checkOpen at hopen ⊢
    split at hopen
    · exact if_pos (by assumption)
    · cases hopen
  have hinteger : checkInteger id = .ok () := by simpa [howner] using h.integer
  have hknows : s.database.knows (some id) = true := howner ▸ h.knows
  unfold stampFor
  rw [Option.map_some, Option.getD_some, hi, hopen, hinteger, hknows, instant_eq_ok hi]
  cases s.checkRefusal .mark <;> rfl

/-! ## Calls keep the frame -/

@[simp] theorem frame_putAll (rows : List ConfigValues) :
    { s with database := s.database.putAll rows }.frame = s.frame := by
  simp [frame]

@[simp] theorem frame_setFetched (id : Int) (at? : Option Instant) :
    { s with database := s.database.setFetched id at? }.frame = s.frame := by
  have hids : (s.database.setFetched id at?).subscriptions.map Subscription.id =
      s.database.subscriptions.map Subscription.id := by
    unfold Database.setFetched
    rw [List.map_map]
    apply List.map_congr_left
    intro sub _
    simp only [Function.comp]
    split <;> rfl
  simp only [frame, hids]

theorem frame_mark (fetchedAt : Option Timestamp) : (s.mark id fetchedAt).2.frame = s.frame := by
  rw [mark_eq]
  cases s.stampFor id fetchedAt with
  | error p => rfl
  | ok at? => exact frame_setFetched id at?

@[simp] theorem frame_stamped (ids : List Int) (i : Instant) :
    { s with database := s.database.stamped ids i }.frame = s.frame := by
  simp [frame]

end LinkHarvest.Store
