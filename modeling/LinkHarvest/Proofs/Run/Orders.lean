import LinkHarvest.Proofs.Run.Containment
import LinkHarvest.Proofs.Run.Pool
import LinkHarvest.Proofs.Run.Written
import LinkHarvest.Proofs.Store.Orders

/-!
# The order of steps does not matter

Whatever turns the sources of a run take, the run gives one result, and the stores that it can leave
agree in everything but the numbers of new rows and, for a link that several subscriptions serve, in
which of them owns it (`interleaved_agree`). This is so while numbers are left for the rows of the
run; when they run out, the source that comes last goes without. The rows of a link agree because
what is known about a link is read off the link: the values that different sources give for it
differ in the owner only.
-/

namespace LinkHarvest

namespace Run

open Fallible Database

/-- A source of a subscription did not fail, and served a link. -/
def BatchResult.Serves (r : BatchResult) (link : Text) (id : Int) : Prop :=
  ∃ o ∈ r.outcomes, o.ok = true ∧ o.subscription = some id ∧ some link ∈ o.configs.map Draft.link

/-- Two stores that a run with the result `r` can leave of the store `s`. -/
structure Agreeing (r : BatchResult) (s t t' : Store) : Prop where
  subscriptions : t.database.subscriptions = t'.database.subscriptions
  rows : ∀ link, List.Forall₂ (SameRow (s.database.rowsOf link ≠ []) (r.Serves link))
    (t.database.rowsOf link) (t'.database.rowsOf link)
  owner : ∀ link i, r.Serves link i → ∀ c ∈ t.database.rowsOf link,
    ∃ k, c.owner = some k ∧ r.Serves link k

variable {setting : Setting} {options : Options.FetchOptions} {s : State} {sources : List Source}
  {all : List Turn} {os : List Outcome} {link : Text} {owner owner' : Option Int} {d d' : Draft}
  {v : ConfigValues}

/-! ## The values of a link -/

theorem Kept.values_link (h : Kept setting owner link d) :
    (Store.values setting.now d).link = link := by
  rw [Store.values, h.same]
  rfl

theorem Kept.values_owner (h : Kept setting owner link d) :
    (Store.values setting.now d).owner = owner := h.owner

theorem Kept.alike (h : Kept setting owner link d) (h' : Kept setting owner' link d') :
    Alike (Store.values setting.now d) (Store.values setting.now d') := by
  have hsame : d.protocol = d'.protocol ∧ d.remark = d'.remark := by
    cases hdecode : setting.registry.decode link with
    | ok summary =>
      obtain ⟨hprotocol, hremark⟩ := h.decoded summary hdecode
      obtain ⟨hprotocol', hremark'⟩ := h'.decoded summary hdecode
      exact ⟨hprotocol.trans hprotocol'.symm, hremark.trans hremark'.symm⟩
    | error failure =>
      obtain ⟨hprotocol, hremark⟩ := h.undecoded failure hdecode
      obtain ⟨hprotocol', hremark'⟩ := h'.undecoded failure hdecode
      exact ⟨hprotocol.trans hprotocol'.symm, hremark.trans hremark'.symm⟩
  unfold Store.values
  refine ⟨hsame.1, ?_, ?_, ?_⟩
  · dsimp only
    rw [hsame.2]
  · dsimp only
    rw [h.addedAt, h'.addedAt]
  · dsimp only
    rw [h.lastSeenAt, h'.lastSeenAt]

theorem exists_kept_of_mem_writes (h : List.Forall₂ (Effected setting options s) all os)
    (hv : v ∈ all.flatMap (Turn.writes setting options)) :
    ∃ o ∈ os, o.ok = true ∧ ∃ d ∈ o.configs, Kept setting o.subscription v.link d ∧
      v = Store.values setting.now d := by
  rw [flatMap_writes h] at hv
  obtain ⟨d, hd, rfl⟩ := List.mem_map.mp hv
  obtain ⟨o, ho, hd⟩ := List.mem_flatMap.mp hd
  obtain ⟨turn, -, heffected⟩ := exists_mem_of_forall₂ h ho
  obtain ⟨link, hkept⟩ := heffected.kept d hd
  rw [← heffected.subscription] at hkept
  refine ⟨o, ho, ?_, d, hd, ?_, rfl⟩
  · by_contra hok
    rw [heffected.failed (Bool.eq_false_iff.mpr hok)] at hd
    cases hd
  · rw [hkept.values_link]
    exact hkept

theorem writes_alike (h : List.Forall₂ (Effected setting options s) all os) :
    ∀ v ∈ all.flatMap (Turn.writes setting options),
      ∀ w ∈ all.flatMap (Turn.writes setting options), v.link = w.link → Alike v w := by
  intro v hv w hw hlink
  obtain ⟨_, -, -, d, -, hd, hvd⟩ := exists_kept_of_mem_writes h hv
  obtain ⟨_, -, -, e, -, he, hwe⟩ := exists_kept_of_mem_writes h hw
  rw [hvd, hwe]
  rw [hlink] at hd
  exact hd.alike he

theorem exists_mem_writes_iff {n : Nat} (h : List.Forall₂ (Effected setting options s) all os)
    (i : Int) :
    (∃ v ∈ all.flatMap (Turn.writes setting options), v.link = link ∧ v.owner = some i) ↔
      (BatchResult.ofOutcomes n os).Serves link i := by
  unfold BatchResult.Serves
  rw [BatchResult.ofOutcomes_outcomes]
  constructor
  · rintro ⟨v, hv, rfl, howner⟩
    obtain ⟨o, ho, hok, d, hd, hkept, hvd⟩ := exists_kept_of_mem_writes h hv
    have howner' : o.subscription = some i := by
      rw [← hkept.values_owner, ← hvd]
      exact howner
    exact ⟨o, ho, hok, howner', List.mem_map.mpr ⟨d, hd, hkept.same⟩⟩
  · rintro ⟨o, ho, hok, howner, hlink⟩
    obtain ⟨d, hd, hdlink⟩ := List.mem_map.mp hlink
    obtain ⟨turn, -, heffected⟩ := exists_mem_of_forall₂ h ho
    obtain ⟨link', hkept⟩ := heffected.kept d hd
    obtain rfl : link' = link := Option.some.inj (hkept.same.symm.trans hdlink)
    refine ⟨Store.values setting.now d, ?_, hkept.values_link, ?_⟩
    · rw [flatMap_writes h]
      exact List.mem_map.mpr ⟨d, List.mem_flatMap.mpr ⟨o, ho, hd⟩, rfl⟩
    · rw [hkept.values_owner, ← heffected.subscription, howner]

/-! ## Two orders of steps -/

theorem stamped_subscriptions_of_perm {db : Database} {ids ids' : List Int} {t : Instant}
    (h : ids.Perm ids') : (db.stamped ids t).subscriptions = (db.stamped ids' t).subscriptions :=
  List.map_congr_left fun _ _ => if_congr h.mem_iff rfl rfl

theorem agreeing_of_perm {n : Nat} {rows rows' : List ConfigValues} {ids ids' : List Int}
    {t t' : Store} (heffected : List.Forall₂ (Effected setting options s) all os)
    (hrows : rows.Perm (all.flatMap (Turn.writes setting options)))
    (hrows' : rows'.Perm (all.flatMap (Turn.writes setting options)))
    (hids : ids.Perm ids')
    (ht : t.database = (s.store.database.putAll rows).stamped ids setting.now)
    (ht' : t'.database = (s.store.database.putAll rows').stamped ids' setting.now) :
    Agreeing (.ofOutcomes n os) s.store t t' := by
  -- Both orders write the same rows, so the owners that are given can be read off the result.
  have howners : ∀ link i, (∃ v ∈ rows, v.link = link ∧ v.owner = some i) ↔
      (BatchResult.ofOutcomes n os).Serves link i := by
    intro link i
    rw [← exists_mem_writes_iff heffected i]
    simp only [hrows.mem_iff]
  have halike : ∀ v ∈ rows, ∀ w ∈ rows, v.link = w.link → Alike v w := by
    intro v hv w hw
    exact writes_alike heffected v (hrows.mem_iff.mp hv) w (hrows.mem_iff.mp hw)
  refine ⟨?_, ?_, ?_⟩
  · rw [ht, ht', ← putAll_stamped, ← putAll_stamped, putAll_subscriptions, putAll_subscriptions]
    exact stamped_subscriptions_of_perm hids
  · intro link
    have hsame := rowsOf_putAll_perm s.store.database (hrows.trans hrows'.symm) halike link
    rw [funext fun i => propext (howners link i)] at hsame
    rw [ht, ht']
    exact hsame
  · intro link i hserves c hc
    obtain ⟨v, hv, hlink, howner⟩ := (howners link i).mpr hserves
    rw [ht] at hc
    obtain ⟨k, hk, hgiven⟩ := owner_of_mem_rowsOf_putAll hv hlink howner hc
    exact ⟨k, hk, (howners link k).mp hgiven⟩

/-- **The order of steps does not matter** while numbers are left for the rows of the run. Every
order gives the same result, and the stores agree. -/
theorem interleaved_agree (hworkers : WorkersInRange options) (hclock : setting.ClockInRange)
    (hfits : ∀ source ∈ sources, source.Fits)
    (hremarks : ∀ source ∈ sources, source.RemarksStorable setting options s)
    (hnumbers : NumbersLeft setting options s sources) :
    ∃ r, (fanOut setting options sources s).1 = .ok r ∧
      r = .ofOutcomes sources.length r.outcomes ∧
      List.Forall₂ (Contained setting options s) sources r.outcomes ∧
      (∀ schedule, Completes setting options sources s schedule →
        (interleaved setting options sources schedule s).1 = .ok r) ∧
      ∀ schedule schedule', Completes setting options sources s schedule →
        Completes setting options sources s schedule' →
        Agreeing r s.store (interleaved setting options sources schedule s).2.store
          (interleaved setting options sources schedule' s).2.store := by
  obtain ⟨os, hturns⟩ := mapM_verdict_ok hclock hfits
    (not_breaks_of_mem_turns fun source hsource => (hremarks source hsource).not_breaks)
  have heffected := effected_of_verdicts hturns
  have hos := (mapM_verdict_atOnce hnumbers).symm.trans hturns
  refine ⟨.ofOutcomes sources.length os, ?_, ?_, ?_, ?_, ?_⟩
  · rw [fanOut_result hworkers, hturns]
  · rw [BatchResult.ofOutcomes_outcomes]
  · rw [BatchResult.ofOutcomes_outcomes]
    exact contained_of_verdicts hturns
  · intro schedule hcompletes
    exact (interleaved_complete hworkers hnumbers hos hcompletes).1
  · intro schedule schedule' hcompletes hcompletes'
    obtain ⟨-, rows, ids, hrows, hids, hstore⟩ :=
      interleaved_complete hworkers hnumbers hos hcompletes
    obtain ⟨-, rows', ids', hrows', hids', hstore'⟩ :=
      interleaved_complete hworkers hnumbers hos hcompletes'
    rw [← flatMap_writes_atOnce hnumbers] at hrows hrows'
    refine agreeing_of_perm heffected hrows hrows' (hids.trans hids'.symm) ?_ ?_
    · rw [hstore]
    · rw [hstore']

def twoSubscriptions : State :=
  .start (((Store.ofDatabase .empty).add ⟨63839750400000000⟩ "http://a/" none none).2.add
    ⟨63839750400000000⟩ "http://b/" none none).2 []

def twoSources : List Source :=
  [⟨"http://a/", "#1", some 1, none⟩, ⟨"http://b/", "#2", some 2, none⟩]

/-- Both of them serve the same page, of one link that cannot be decoded. -/
def samePage : Setting := .serving [("http://a/", pageOf "foo"), ("http://b/", pageOf "foo")]

theorem samePage_clock : samePage.ClockInRange := Setting.serving_clock _

theorem foo_storable : ¬Unstorable .default "foo".toList := by
  rintro ⟨summary, hdecode, -⟩
  have herror : (Link.Registry.default.decode "foo".toList).toOption = none := by decide +kernel
  rw [hdecode] at herror
  cases herror

theorem twoSources_fit : ∀ source ∈ twoSources, source.Fits := by
  have hfit : ∀ source ∈ twoSources,
      (source.subscription.map Store.fitsColumn).getD true = true := by decide
  intro source hsource id hid
  have hfit := hfit source hsource
  rwa [hid] at hfit

theorem samePage_storable :
    ∀ source ∈ twoSources, source.RemarksStorable samePage allSources twoSubscriptions := by
  have hserved : ∀ source ∈ twoSources,
      source.served samePage allSources twoSubscriptions = .ok ["foo".toList] := by decide +kernel
  intro source hsource lines hlines link hlink
  rw [hserved source hsource] at hlines
  cases hlines
  rw [List.mem_singleton.mp hlink]
  exact foo_storable

theorem samePage_numbersLeft : NumbersLeft samePage allSources twoSubscriptions twoSources := by
  unfold NumbersLeft
  decide +kernel

/-- Two sources that serve one link, in turns and one after the other. -/
theorem interleaved_agree_on_samePage :
    ∃ r, (fanOut samePage allSources twoSources twoSubscriptions).1 = .ok r ∧
      Agreeing r twoSubscriptions.store
        (interleaved samePage allSources twoSources [0, 1, 1, 0, 1, 0, 1, 0]
          twoSubscriptions).2.store
        (interleaved samePage allSources twoSources (inOrder 2) twoSubscriptions).2.store := by
  obtain ⟨r, hr, -, -, -, hagree⟩ := interleaved_agree allSources_workers
    samePage_clock twoSources_fit samePage_storable samePage_numbersLeft
  refine ⟨r, hr, hagree _ _ ?_ (inOrder_completes _)⟩
  unfold Completes Pool.Complete
  decide +kernel

end Run

end LinkHarvest
