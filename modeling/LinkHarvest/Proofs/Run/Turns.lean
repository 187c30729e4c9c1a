import LinkHarvest.Proofs.Run.Verdict
import Mathlib.Algebra.GroupWithZero.Nat
import Mathlib.Algebra.Order.BigOperators.Group.List
import Mathlib.Algebra.Order.Group.Nat

/-!
# Sources in turn

What becomes of a source may depend on the sources before it, for one reason only: every row that
they write uses up a number. So each source of a run has its turn, with the state that the sources
before it leave (`turns`), and the run is told by the verdicts, the rows and the marks of the turns.
As long as numbers are left for the links of all sources, each of them comes to what it comes to in
the state before the run (`turns_alike`), and the order does not matter.
-/

namespace LinkHarvest

namespace Run

open Fallible

/-- A source and the state in which its turn comes. -/
structure Turn where
  source : Source
  state : State

section definitions

variable (setting : Setting) (options : Options.FetchOptions)

namespace Turn

def verdict (turn : Turn) : Except StoreProblem Outcome :=
  turn.source.verdict setting options turn.state

def writes (turn : Turn) : List ConfigValues := turn.source.writes setting options turn.state

def marks (turn : Turn) : List Int := turn.source.marks setting options turn.state

/-- Two turns come to the same. -/
structure Alike (a b : Turn) : Prop where
  verdict : a.verdict setting options = b.verdict setting options
  writes : a.writes setting options = b.writes setting options
  marks : a.marks setting options = b.marks setting options

end Turn

/-- What a source leaves of a state, as far as the sources after it depend on it. -/
def State.past (s : State) (source : Source) : State :=
  { s with
    store := { s.store with
      database := (s.store.database.putAll (source.writes setting options s)).stamped
        (source.marks setting options s) setting.now } }

def State.pastAll (s : State) (sources : List Source) : State :=
  sources.foldl (State.past setting options) s

/-- The sources, each with the state that those before it leave. -/
def turns : State → List Source → List Turn
  | _, [] => []
  | s, source :: sources => ⟨source, s⟩ :: turns (s.past setting options source) sources

/-- Sources that are all processed in one state. -/
def atOnce (s : State) (sources : List Source) : List Turn := sources.map fun source => ⟨source, s⟩

/-- Numbers are left for the links of all sources. -/
def NumbersLeft (s : State) (sources : List Source) : Prop :=
  (sources.map (Source.linkCount setting options s)).sum ≤ s.store.database.numbersLeft

end definitions

variable {setting : Setting} {options : Options.FetchOptions} {s t : State} {source : Source}
  {sources more : List Source} {turn : Turn}

/-! ## The states of the turns -/

theorem State.past_store :
    (s.past setting options source).store =
      { s.store with
        database := (s.store.database.putAll (source.writes setting options s)).stamped
          (source.marks setting options s) setting.now } := rfl

@[simp] theorem State.past_frame (proxy : Option Text) :
    (s.past setting options source).frame proxy = s.frame proxy := by
  have hstore : (s.past setting options source).store.frame = s.store.frame :=
    (Store.frame_stamped ..).trans (Store.frame_putAll _)
  rw [frame, hstore]
  rfl

@[simp] theorem State.past_numbersLeft :
    (s.past setting options source).store.database.numbersLeft =
      s.store.database.numbersLeft - (source.writes setting options s).length := by
  rw [past_store, Database.stamped_numbersLeft, Database.putAll_numbersLeft]

theorem turns_source : (turns setting options s sources).map Turn.source = sources := by
  induction sources generalizing s with
  | nil => rfl
  | cons source sources ih => rw [turns, List.map_cons, ih]

theorem mapM_verdict_singleton :
    (turns setting options s [source]).mapM (Turn.verdict setting options) =
      [source].mapM (Source.verdict setting options s) := rfl

theorem turns_append :
    turns setting options s (sources ++ more) =
      turns setting options s sources ++
        turns setting options (s.pastAll setting options sources) more := by
  induction sources generalizing s with
  | nil => rfl
  | cons source sources ih =>
    rw [List.cons_append, turns, ih, turns, List.cons_append]
    rfl

theorem State.pastAll_append :
    s.pastAll setting options (sources ++ more) =
      (s.pastAll setting options sources).pastAll setting options more := List.foldl_append

theorem source_mem_of_mem_turns (h : turn ∈ turns setting options s sources) :
    turn.source ∈ sources := by
  rw [← @turns_source setting options s sources]
  exact List.mem_map_of_mem h

theorem frame_of_mem_turns (h : turn ∈ turns setting options s sources) (proxy : Option Text) :
    turn.state.frame proxy = s.frame proxy := by
  induction sources generalizing s with
  | nil => cases h
  | cons source sources ih =>
    rcases List.mem_cons.mp h with rfl | h
    · rfl
    · rw [ih h, State.past_frame]

theorem numbersLeft_of_mem_turns (h : turn ∈ turns setting options s sources) :
    turn.state.store.database.numbersLeft ≤ s.store.database.numbersLeft := by
  induction sources generalizing s with
  | nil => cases h
  | cons source sources ih =>
    rcases List.mem_cons.mp h with rfl | h
    · exact Nat.le_refl _
    · apply Nat.le_trans (ih h)
      rw [State.past_numbersLeft]
      exact Nat.sub_le ..

theorem State.pastAll_store :
    (s.pastAll setting options sources).store =
      { s.store with
        database :=
          (s.store.database.putAll
            ((turns setting options s sources).flatMap (Turn.writes setting options))).stamped
              ((turns setting options s sources).flatMap (Turn.marks setting options))
              setting.now } := by
  induction sources generalizing s with
  | nil =>
    rw [turns, List.flatMap_nil, List.flatMap_nil, Database.putAll_nil, Database.stamped_nil]
    rfl
  | cons source sources ih =>
    rw [turns, List.flatMap_cons, List.flatMap_cons, Database.putAll_append,
      Database.stamped_append, ← Database.putAll_stamped]
    exact ih

theorem State.pastAll_frame (proxy : Option Text) :
    (s.pastAll setting options sources).frame proxy = s.frame proxy := by
  induction sources generalizing s with
  | nil => rfl
  | cons source sources ih => exact ih.trans (past_frame proxy)

theorem turns_writes_length_le :
    ((turns setting options s sources).flatMap (Turn.writes setting options)).length ≤
      s.store.database.numbersLeft := by
  induction sources generalizing s with
  | nil => exact Nat.zero_le _
  | cons source sources ih =>
    have hfirst := @Source.writes_length_le_numbersLeft setting options s source
    have hrest := @ih (s.past setting options source)
    rw [State.past_numbersLeft] at hrest
    rw [turns, List.flatMap_cons, List.length_append]
    show (source.writes setting options s).length + _ ≤ _
    omega

/-! ## Turns that come to the same -/

theorem flatMap_of_forall₂ {α : Type} {R : Turn → Turn → Prop} {f g : Turn → List α}
    {as bs : List Turn} (h : List.Forall₂ R as bs) (hfg : ∀ a b, R a b → f a = g b) :
    as.flatMap f = bs.flatMap g := by
  induction h with
  | nil => rfl
  | cons hab _ ih => rw [List.flatMap_cons, List.flatMap_cons, hfg _ _ hab, ih]

theorem Turn.alike_of_rows (hframe : s.frame options.proxy = t.frame options.proxy)
    (hrows : ∀ lines, source.served setting options s = .ok lines →
      source.rows setting s lines = source.rows setting t lines) :
    (Turn.mk source s).Alike setting options ⟨source, t⟩ :=
  ⟨Source.verdict_congr hframe hrows, Source.writes_congr hframe hrows,
    Source.marks_congr hframe hrows⟩

theorem Turn.alike_of_numbers (hframe : s.frame options.proxy = t.frame options.proxy)
    (hleft : Store.SameNumbers (source.linkCount setting options s) s.store t.store) :
    (Turn.mk source s).Alike setting options ⟨source, t⟩ :=
  alike_of_rows hframe fun _ hserved => Source.rows_congr_of_served hframe hserved hleft

section alike

variable {as bs : List Turn} (h : List.Forall₂ (Turn.Alike setting options) as bs)

include h

theorem mapM_verdict_of_alike :
    as.mapM (Turn.verdict setting options) = bs.mapM (Turn.verdict setting options) :=
  mapM_of_forall₂ h fun _ _ => Turn.Alike.verdict

theorem flatMap_writes_of_alike :
    as.flatMap (Turn.writes setting options) = bs.flatMap (Turn.writes setting options) :=
  flatMap_of_forall₂ h fun _ _ => Turn.Alike.writes

theorem flatMap_marks_of_alike :
    as.flatMap (Turn.marks setting options) = bs.flatMap (Turn.marks setting options) :=
  flatMap_of_forall₂ h fun _ _ => Turn.Alike.marks

end alike

theorem turns_congr (hframe : s.frame options.proxy = t.frame options.proxy)
    (hstore : s.store = t.store) (sources : List Source) :
    List.Forall₂ (Turn.Alike setting options) (turns setting options s sources)
      (turns setting options t sources) := by
  induction sources generalizing s t with
  | nil => exact .nil
  | cons source sources ih =>
    have halike : (Turn.mk source s).Alike setting options ⟨source, t⟩ :=
      Turn.alike_of_numbers hframe (Store.sameNumbers_of_eq (by rw [hstore]))
    refine .cons halike (ih ?_ ?_)
    · rw [State.past_frame, State.past_frame, hframe]
    · have hwrites : source.writes setting options s = source.writes setting options t :=
        halike.writes
      have hmarks : source.marks setting options s = source.marks setting options t :=
        halike.marks
      rw [State.past_store, State.past_store, hwrites, hmarks, hstore]

theorem mapM_verdict_congr (hframe : s.frame options.proxy = t.frame options.proxy)
    (hstore : s.store = t.store) (sources : List Source) :
    (turns setting options s sources).mapM (Turn.verdict setting options) =
      (turns setting options t sources).mapM (Turn.verdict setting options) :=
  mapM_verdict_of_alike (turns_congr hframe hstore sources)

theorem State.pastAll_congr (hframe : s.frame options.proxy = t.frame options.proxy)
    (hstore : s.store = t.store) (sources : List Source) :
    (s.pastAll setting options sources).store = (t.pastAll setting options sources).store := by
  have halike := @turns_congr setting options s t hframe hstore sources
  rw [pastAll_store, pastAll_store, hstore, flatMap_writes_of_alike halike,
    flatMap_marks_of_alike halike]

theorem mapM_verdict_logged {events : List Log.Event} :
    (turns setting options (s.logged events) sources).mapM (Turn.verdict setting options) =
      (turns setting options s sources).mapM (Turn.verdict setting options) :=
  mapM_verdict_congr (s := s.logged events) (t := s) rfl rfl sources

theorem State.pastAll_logged {events : List Log.Event} :
    ((s.logged events).pastAll setting options sources).store =
      (s.pastAll setting options sources).store :=
  pastAll_congr (s := s.logged events) (t := s) rfl rfl sources

/-! ## While numbers are left -/

theorem sum_map_add_le {α : Type} {f g : α → Nat} {l : List α} {a : α} {n : Nat}
    (h : ∀ b ∈ l, f b ≤ g b) (ha : a ∈ l) (hn : f a + n ≤ g a) :
    (l.map f).sum + n ≤ (l.map g).sum := by
  induction l with
  | nil => cases ha
  | cons b l ih =>
    obtain ⟨hb, hl⟩ := List.forall_mem_cons.mp h
    rw [List.map_cons, List.map_cons, List.sum_cons, List.sum_cons]
    rcases List.mem_cons.mp ha with rfl | ha
    · have hrest := List.sum_le_sum hl
      omega
    · have hrest := ih hl ha
      omega

theorem numbersLeft_cons :
    NumbersLeft setting options s (source :: sources) ↔
      source.linkCount setting options s + (sources.map (Source.linkCount setting options s)).sum ≤
        s.store.database.numbersLeft := by
  rw [NumbersLeft, List.map_cons, List.sum_cons]

/-- A source leaves the others the numbers that they need. -/
theorem NumbersLeft.past (h : NumbersLeft setting options s (source :: sources)) :
    NumbersLeft setting options (s.past setting options source) sources := by
  rw [numbersLeft_cons] at h
  have hcounts : Source.linkCount setting options (s.past setting options source) =
      Source.linkCount setting options s :=
    funext fun _ => Source.linkCount_congr (State.past_frame _)
  have hwrites := @Source.writes_length_le setting options s source
  rw [NumbersLeft, hcounts, State.past_numbersLeft]
  omega

theorem NumbersLeft.linkCount_le (h : NumbersLeft setting options s sources)
    (hsource : source ∈ sources) :
    source.linkCount setting options s ≤ s.store.database.numbersLeft := by
  have hsum : (sources.map fun _ => 0).sum + source.linkCount setting options s ≤
      (sources.map (Source.linkCount setting options s)).sum :=
    sum_map_add_le (fun _ _ => Nat.zero_le _) hsource (Nat.zero_add _).le
  exact Nat.le_trans (Nat.le_of_add_left_le hsum) h

/-- **While numbers are left, the order plays no part**: in its turn a source comes to what it
comes to in the state before the run. -/
theorem turns_alike (h : NumbersLeft setting options s sources) :
    List.Forall₂ (Turn.Alike setting options) (turns setting options s sources)
      (atOnce s sources) := by
  suffices hfrom : ∀ t : State, t.frame options.proxy = s.frame options.proxy →
      NumbersLeft setting options t sources →
      (∀ source ∈ sources, source.linkCount setting options s ≤ s.store.database.numbersLeft) →
      List.Forall₂ (Turn.Alike setting options) (turns setting options t sources)
        (atOnce s sources) from hfrom s rfl h fun _ => h.linkCount_le
  clear h
  induction sources with
  | nil => exact fun _ _ _ _ => .nil
  | cons source sources ih =>
    intro t hframe ht hs
    obtain ⟨hfirst, hrest⟩ := List.forall_mem_cons.mp hs
    refine .cons (Turn.alike_of_numbers hframe ?_)
      (ih _ ((State.past_frame _).trans hframe) ht.past hrest)
    apply Store.sameNumbers_of_le (ht.linkCount_le List.mem_cons_self)
    rw [Source.linkCount_congr hframe]
    exact hfirst

theorem mapM_verdict_atOnce (h : NumbersLeft setting options s sources) :
    (turns setting options s sources).mapM (Turn.verdict setting options) =
      sources.mapM (Source.verdict setting options s) := by
  rw [mapM_verdict_of_alike (turns_alike h), atOnce, List.mapM_map]
  rfl

theorem flatMap_writes_atOnce (h : NumbersLeft setting options s sources) :
    (turns setting options s sources).flatMap (Turn.writes setting options) =
      sources.flatMap (Source.writes setting options s) := by
  rw [flatMap_writes_of_alike (turns_alike h), atOnce, List.flatMap_map]
  rfl

theorem flatMap_marks_atOnce (h : NumbersLeft setting options s sources) :
    (turns setting options s sources).flatMap (Turn.marks setting options) =
      sources.flatMap (Source.marks setting options s) := by
  rw [flatMap_marks_of_alike (turns_alike h), atOnce, List.flatMap_map]
  rfl

end Run

end LinkHarvest
