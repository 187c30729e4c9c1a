import LinkHarvest.Proofs.Run.Selection

/-!
# Numbers that no subscription has

Whatever is asked of a subscription by its number, a number that no subscription has gives one and
the same answer, and nothing is changed (`unknown_number`). The calls find out in two ways: some read
the row first, and noting a time looks whether it has found a row. A run of one subscription reads
the row before it sends anything.

The answer is that there is no such subscription, as long as the number fits into a column. A number
of more than 64 bits is not even looked up.
-/

namespace LinkHarvest

namespace Store

open Database Fallible

/-- What is said about a number that no subscription has. -/
def absence (id : Int) : StoreProblem :=
  if fitsColumn id then .noSubscription id else .integerTooLarge

theorem family_absence (id : Int) :
    (absence id).family = .notFound ↔ -greatestNumber - 1 ≤ id ∧ id ≤ greatestNumber := by
  have hfits : fitsColumn id = true ↔ -greatestNumber - 1 ≤ id ∧ id ≤ greatestNumber := by
    simp only [fitsColumn, greatestNumber, Bool.and_eq_true, decide_eq_true_eq]
    omega
  rw [← hfits, absence]
  cases fitsColumn id <;> simp [StoreProblem.family]

/-- A store that is open, that nothing keeps from answering, and in which no subscription has the
number. -/
structure Lacks (s : Store) (id : Int) : Prop where
  isOpen : s.isOpen = true
  serving : ∀ call, s.refusal call = none
  unknown : ∀ t ∈ s.database.subscriptions, t.id ≠ id

namespace Lacks

variable {s : Store} {id : Int}

theorem subscription? (h : s.Lacks id) : s.database.subscription? id = none := by
  simpa [Database.subscription?] using h.unknown

theorem get (h : s.Lacks id) : s.get id = .error (absence id) := by
  unfold Store.get checkRefusal checkOpen checkInteger absence
  rw [h.serving .get, h.isOpen, h.subscription?]
  cases fitsColumn id <;> rfl

theorem delete (h : s.Lacks id) : s.delete id = (.error (absence id), s) := by
  unfold Store.delete checkRefusal
  rw [h.serving .delete, h.get]
  rfl

/-- Noting a time looks for the row only after the time and the number have been accepted. -/
theorem mark (h : s.Lacks id) {at? : Option Timestamp}
    (htime : ∀ t, at? = some t → (Instant.ofTimestamp? t).isSome) :
    s.mark id at? = (.error (absence id), s) := by
  have hstamp : s.stampFor id at? = .error (absence id) := by
    obtain ⟨i, hi⟩ : ∃ i, (at?.map fun t => (instant t).map some).getD (.ok none) = .ok i := by
      cases at? with
      | none => exact ⟨none, rfl⟩
      | some t =>
        obtain ⟨i, hi⟩ := Option.isSome_iff_exists.mp (htime t rfl)
        refine ⟨some i, ?_⟩
        rw [Option.map_some, Option.getD_some, instant_of_eq_some hi]
        rfl
    have hknows : s.database.knows (some id) = false := by simp [knows, h.subscription?]
    unfold stampFor checkRefusal checkOpen checkInteger absence
    rw [h.serving .mark, h.isOpen, hknows, hi]
    cases fitsColumn id <;> rfl
  rw [mark_eq, hstamp]

theorem update (h : s.Lacks id) {c : Changes} (hnamed : c.isEmpty = false)
    (habsolute : ∀ url, c.url = some url → Retrieval.IsAbsolute (Text.trim url)) :
    s.update id c = (.error (absence id), s) := by
  have hurl : checkedUrl c = .ok (c.url.map Text.trim) := checkedUrl_eq_ok.mpr ⟨habsolute, rfl⟩
  have hupdated : s.updatedFor id c = .error (absence id) := by
    unfold updatedFor checkRefusal
    rw [h.serving .update, hurl, hnamed, h.get]
    rfl
  rw [update_eq, hupdated]

end Lacks

end Store

namespace Run

open Store

variable {setting : Setting} {options : Options.FetchOptions} {files : Files} {s : State} {id : Int}

theorem run_of_lacks (h : s.store.Lacks id) (hid : options.subscription = some id) :
    run setting options files s = ⟨.error (.source (.store (absence id))), files, s⟩ := by
  have hmode : options.mode = .byId := by
    unfold Options.FetchOptions.mode
    rw [hid]
    rfl
  apply run_of_selected_error
  unfold selected
  rw [hmode, hid]
  dsimp only [Option.getD_some]
  rw [h.get]

end Run

/-- **A number that no subscription has gets one answer, from every call and from a run, and changes
nothing.** It is that there is no such subscription just when the number has at most 64 bits. -/
theorem unknown_number {s : Store} {id : Int} (h : s.Lacks id) :
    s.get id = .error (Store.absence id) ∧ s.delete id = (.error (Store.absence id), s) ∧
      (∀ at?, (∀ t, at? = some t → (Instant.ofTimestamp? t).isSome) →
        s.mark id at? = (.error (Store.absence id), s)) ∧
      (∀ c : Changes, c.isEmpty = false →
        (∀ url, c.url = some url → Retrieval.IsAbsolute (Text.trim url)) →
          s.update id c = (.error (Store.absence id), s)) ∧
      (∀ setting (options : Options.FetchOptions) files (state : Run.State), state.store = s →
        options.subscription = some id →
          Run.run setting options files state =
            ⟨.error (.source (.store (Store.absence id))), files, state⟩) ∧
      ((Store.absence id).family = .notFound ↔
        -Database.greatestNumber - 1 ≤ id ∧ id ≤ Database.greatestNumber) := by
  refine ⟨h.get, h.delete, fun at? htime => h.mark htime,
    fun c hnamed habsolute => h.update hnamed habsolute, ?_, Store.family_absence id⟩
  rintro setting options files state rfl hid
  exact Run.run_of_lacks h hid

/-- A negative number is missed. The first number of more than 64 bits is refused. -/
theorem unknown_number_beside_the_first :
    (∀ id ∈ [-5, 9223372036854775808], Run.oneSubscription.Lacks id) ∧
      Run.oneSubscription.get (-5) = .error (.noSubscription (-5)) ∧
      Run.oneSubscription.get 9223372036854775808 = .error .integerTooLarge ∧
      Run.oneSubscription.update 9223372036854775808 ⟨none, some [], none, none⟩ =
        (.error .integerTooLarge, Run.oneSubscription) ∧
      (Run.run (.serving [])
        { Run.allSources with subscription := some 9223372036854775808, fetchAll := false }
        ⟨[], []⟩ (.start Run.oneSubscription [])).result =
          .error (.source (.store .integerTooLarge)) := by
  have hlacks : ∀ id ∈ [-5, 9223372036854775808], Run.oneSubscription.Lacks id := by
    intro id hid
    have hunknown : ∀ n ∈ [-5, 9223372036854775808],
        ∀ t ∈ Run.oneSubscription.database.subscriptions, t.id ≠ n := by decide +kernel
    exact ⟨by decide +kernel, fun _ => rfl, hunknown id hid⟩
  have hsmall := unknown_number (hlacks (-5) (by decide))
  obtain ⟨hget, -, -, hupdate, hrun, -⟩ :=
    unknown_number (hlacks 9223372036854775808 (by decide))
  refine ⟨hlacks, hsmall.1, hget, hupdate _ rfl (by simp), ?_⟩
  exact congrArg Run.Finished.result (hrun _ _ _ (.start Run.oneSubscription []) rfl rfl)

end LinkHarvest
