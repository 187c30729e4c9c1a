import LinkHarvest.Proofs.Options.FetchOptions
import LinkHarvest.Proofs.Options.ZeroNumeral

/-!
# Zero in place of a subscription

No subscription has the number zero, so a zero that is given for one stands for none. But values are
compared with zero before they are read: only the number and the text of a single digit count
(`IsZero`), while other spellings of zero are read as a number too (`toInteger_eq_zero`). Such a
value is taken for a source, the subscription zero: a run that selects nothing else is accepted, and
a run that selects something else is refused (`AddsZero`).
-/

namespace LinkHarvest.Options

open Fallible

variable {α ε : Type} {values : List (Value × Value)} {name : Text} {v : Value} {usual : α}
  {n : Int}

theorem integerOfFloat_eq_zero {x : Binary64} : integerOfFloat x = .ok 0 ↔ x.toInt? = some 0 := by
  unfold integerOfFloat
  cases x with
  | finite negative m e =>
    cases hx : (Binary64.finite negative m e).toInt? with
    | none => simp [Binary64.isFinite]
    | some n =>
      simp only [Binary64.isFinite, Bool.not_true, Bool.false_eq_true, if_false,
        Option.some.injEq]
      constructor
      · intro h
        split at h
        · exact Except.ok.inj h
        · cases h
      · rintro rfl
        exact if_pos (by decide)
  | _ => simp [Binary64.isFinite, Binary64.toInt?]

namespace FetchOptions

/-! ## Values that are read as zero -/

def SpellsZero (v : Value) : Prop :=
  ∃ t, textOf? v = some (some t) ∧ ZeroNumeral (Integer.trimMargins t)

theorem spellsZero_ofText_zero : SpellsZero (.ofText "0") :=
  ⟨['0'], rfl, ['0'], [], .zeros (List.forall_mem_nil _) rfl, .none, .inl (by decide)⟩

theorem toInteger_eq_zero : toInteger v = .ok 0 ↔ IsZero v ∨ SpellsZero v := by
  have htext : v.asInt? = none → (IsZero v ∨ SpellsZero v ↔ SpellsZero v) := by
    intro hnumber
    refine ⟨?_, .inr⟩
    rintro ((hzero | rfl) | h)
    · cases hnumber.symm.trans hzero
    · exact spellsZero_ofText_zero
    · exact h
  cases v with
  | bool b => cases b <;> simp [toInteger, IsZero, SpellsZero, Value.asInt?, textOf?, Value.ofText]
  | int n => simp [toInteger, IsZero, SpellsZero, Value.asInt?, textOf?, Value.ofText]
  | float x =>
    simp [toInteger, IsZero, SpellsZero, Value.asInt?, textOf?, Value.ofText,
      integerOfFloat_eq_zero]
  | text t =>
    rw [htext rfl]
    cases ht : t.toText? <;> simp [toInteger, SpellsZero, textOf?, ht, integerOfText_eq_zero]
  | bytes b =>
    rw [htext rfl]
    cases hb : Utf8.decode? b <;> simp [toInteger, SpellsZero, textOf?, hb, integerOfText_eq_zero]
  | _ =>
    rw [htext rfl]
    simp [toInteger, SpellsZero, textOf?]

theorem readId_of_isZero (h : IsZero v) : readId v = .ok none := if_pos (isNoId_iff.mpr h)

theorem readId_eq_some : readId v = .ok (some n) ↔ toInteger v = .ok n ∧ ¬IsZero v := by
  rw [← isNoId_iff]
  unfold readId
  split
  · rename_i hzero
    simp [hzero]
  · rename_i hzero
    split
    · simp [toInteger, textOf?]
    · simp [map_eq_ok, hzero]

/-- A run is for the subscription with a number exactly when a value is given that is read as the
number and does not stand for none. -/
theorem fieldOr_readId_eq_some :
    fieldOr values "subscription_id" none readId = .ok (some n) ↔
      ∃ v, Value.find? values "subscription_id" = some v ∧ toInteger v = .ok n ∧ ¬IsZero v := by
  unfold fieldOr
  cases Value.find? values "subscription_id" <;> simp [readId_eq_some]

/-! ## Runs with and without a subscription -/

theorem fieldOr_erase :
    fieldOr (Value.erase values "subscription_id") "subscription_id" none readId = .ok none := by
  unfold fieldOr
  rw [Value.find?_erase, if_pos rfl]

theorem fieldOr_erase_of_ne {read : Value → Except ε α} (h : name ≠ "subscription_id") :
    fieldOr (Value.erase values "subscription_id") name usual read =
      fieldOr values name usual read := by
  unfold fieldOr
  rw [Value.find?_erase, if_neg (Ne.symm h)]

theorem toOptionalPath_ne_noSource {r : Rejection}
    (h : fieldOr values name none toOptionalPath = .error r) :
    r ≠ .problems [⟨none, .noSource⟩] := by
  rintro rfl
  obtain ⟨v, -, hv⟩ := fieldOr_eq_error.mp h
  cases (toOptionalPath_eq_error.mp hv).2.2

/-- When the subscription can be read, options without it are refused for the same reason, or they
are the same besides it. -/
theorem ofEntries_erase {id : Option Int}
    (hid : fieldOr values "subscription_id" none readId = .ok id) :
    (∃ r, r ≠ .problems [⟨none, .noSource⟩] ∧
      ofEntries (Value.erase values "subscription_id") = .error r ∧ ofEntries values = .error r) ∨
    ∃ o : FetchOptions, o.subscription = none ∧
      ofEntries (Value.erase values "subscription_id") = checkSelection o ∧
      ofEntries values = checkSelection { o with subscription := id } := by
  unfold ofEntries
  rw [hid, fieldOr_erase, fieldOr_erase_of_ne (by decide), fieldOr_erase_of_ne (by decide),
    fieldOr_erase_of_ne (by decide), fieldOr_erase_of_ne (by decide),
    fieldOr_erase_of_ne (by decide), fieldOr_erase_of_ne (by decide),
    fieldOr_erase_of_ne (by decide)]
  cases hfile : fieldOr values "file_input" none toOptionalPath with
  | error r => exact .inl ⟨r, toOptionalPath_ne_noSource hfile, rfl, rfl⟩
  | ok file =>
  cases houtput : fieldOr values "output_path" none toOptionalPath with
  | error r => exact .inl ⟨r, toOptionalPath_ne_noSource houtput, rfl, rfl⟩
  | ok output =>
  simp only [ok_bind]
  split
  · rename_i url fetchAll agent proxy workers hnone hurl hfetchAll hagent hproxy hworkers
    rw [hurl, hfetchAll, hagent, hproxy, hworkers, ← Except.ok.inj hnone]
    exact .inr ⟨⟨none, url, fetchAll, file, agent, proxy, workers, output⟩, rfl, rfl, rfl⟩
  · rename_i hfailed
    refine .inl ⟨_, fun hreport => ?_, rfl, ?_⟩
    · -- Each problem has the name of its option.
      have hmem : ⟨none, .noSource⟩ ∈ [(⟨none, .noSource⟩ : Problem)] := List.mem_cons_self
      rw [← Rejection.problems.inj hreport] at hmem
      simp only [List.mem_append] at hmem
      rcases hmem with ((((h | h) | h) | h) | h) | h
      · cases h
      all_goals cases (mem_problemOf h).1
    · split
      · rename_i hurl hfetchAll hagent hproxy hworkers
        exact absurd hworkers (hfailed _ _ _ _ _ _ rfl hurl hfetchAll hagent hproxy)
      · rfl

/-- What becomes of a run, whose result is known, when the subscription zero is selected as well:
it is accepted if nothing was selected, and refused otherwise. -/
inductive AddsZero : Except Rejection FetchOptions → Except Rejection FetchOptions → Prop
  | alone {o : FetchOptions} (h : o.subscription = some 0) :
      AddsZero (.error (.problems [⟨none, .noSource⟩])) (.ok o)
  | second (o : FetchOptions) : AddsZero (.ok o) (.error (.problems [⟨none, .severalSources⟩]))
  | refused {r : Rejection} (h : r ≠ .problems [⟨none, .noSource⟩]) : AddsZero (.error r) (.error r)

theorem AddsZero.eq_iff {without result : Except Rejection FetchOptions}
    (h : AddsZero without result) :
    result = without ↔ ∃ r, r ≠ .problems [⟨none, .noSource⟩] ∧ without = .error r := by
  cases h with
  | alone _ =>
    refine iff_of_false nofun ?_
    rintro ⟨r, hr, heq⟩
    exact hr (Except.error.inj heq).symm
  | second o => exact iff_of_false nofun nofun
  | refused hr => exact iff_of_true rfl ⟨_, hr, rfl⟩

theorem addsZero_checkSelection {o : FetchOptions} (h : o.subscription = none) :
    AddsZero (checkSelection o) (checkSelection { o with subscription := some 0 }) := by
  have hcount : ({ o with subscription := some 0 } : FetchOptions).selected.count true =
      o.selected.count true + 1 := by
    simp [selected, h]
  unfold checkSelection
  rw [hcount]
  match o.selected.count true with
  | 0 => exact .alone rfl
  | 1 => exact .second _
  | n + 2 => exact .refused nofun

theorem ofEntries_of_isZero (hgiven : Value.find? values "subscription_id" = some v)
    (hzero : IsZero v) : ofEntries values = ofEntries (Value.erase values "subscription_id") := by
  have hid : fieldOr values "subscription_id" none readId = .ok none :=
    (fieldOr_of_find? hgiven).trans (readId_of_isZero hzero)
  rcases ofEntries_erase hid with ⟨r, -, hwithout, hwith⟩ | ⟨o, hnone, hwithout, hwith⟩
  · rw [hwith, hwithout]
  · rw [hwith, hwithout, ← hnone]

theorem addsZero_of_spellsZero (hgiven : Value.find? values "subscription_id" = some v)
    (hspelled : SpellsZero v) (hzero : ¬IsZero v) :
    AddsZero (ofEntries (Value.erase values "subscription_id")) (ofEntries values) := by
  have hid := fieldOr_readId_eq_some.mpr ⟨v, hgiven, toInteger_eq_zero.mpr (.inr hspelled), hzero⟩
  rcases ofEntries_erase hid with ⟨r, hr, hwithout, hwith⟩ | ⟨o, hnone, hwithout, hwith⟩
  · rw [hwith, hwithout]
    exact .refused hr
  · rw [hwith, hwithout]
    exact addsZero_checkSelection hnone

theorem subscription_eq_zero {o : FetchOptions} (h : ofEntries values = .ok o) :
    o.subscription = some 0 ↔
      ∃ v, Value.find? values "subscription_id" = some v ∧ SpellsZero v ∧ ¬IsZero v := by
  have hread := (ofEntries_eq_ok.mp h).subscription
  have hid : o.subscription = some 0 ↔
      fieldOr values "subscription_id" none readId = .ok (some 0) := by
    rw [hread, Except.ok.injEq]
  rw [hid, fieldOr_readId_eq_some]
  refine exists_congr fun v => and_congr_right fun _ => and_congr_left fun hzero => ?_
  rw [toInteger_eq_zero, or_iff_right hzero]

theorem ofEntries_eq_erase_iff (hgiven : Value.find? values "subscription_id" = some v)
    (hread : toInteger v = .ok 0) :
    ofEntries values = ofEntries (Value.erase values "subscription_id") ↔
      IsZero v ∨ ∃ r, r ≠ .problems [⟨none, .noSource⟩] ∧
        ofEntries (Value.erase values "subscription_id") = .error r := by
  by_cases hzero : IsZero v
  · exact iff_of_true (ofEntries_of_isZero hgiven hzero) (.inl hzero)
  · have hspelled := (toInteger_eq_zero.mp hread).resolve_left hzero
    rw [(addsZero_of_spellsZero hgiven hspelled hzero).eq_iff, or_iff_right hzero]

/-- **A zero that is given for a subscription** is a number or a text that spells zero. The number,
and the text of a single digit, stand for no subscription. Any other spelling selects the
subscription zero, and nothing else does. -/
theorem zero_subscription (values : List (Value × Value)) :
    (∀ v, toInteger v = .ok 0 ↔ IsZero v ∨ SpellsZero v) ∧
    (∀ v, Value.find? values "subscription_id" = some v → toInteger v = .ok 0 →
      (ofEntries values = ofEntries (Value.erase values "subscription_id") ↔
        IsZero v ∨ ∃ r, r ≠ .problems [⟨none, .noSource⟩] ∧
          ofEntries (Value.erase values "subscription_id") = .error r) ∧
      (¬IsZero v →
        AddsZero (ofEntries (Value.erase values "subscription_id")) (ofEntries values))) ∧
    ∀ o, ofEntries values = .ok o → (o.subscription = some 0 ↔
      ∃ v, Value.find? values "subscription_id" = some v ∧ SpellsZero v ∧ ¬IsZero v) := by
  refine ⟨fun v => toInteger_eq_zero, fun v hgiven hread => ⟨?_, fun hzero => ?_⟩,
    fun o => subscription_eq_zero⟩
  · exact ofEntries_eq_erase_iff hgiven hread
  · have hspelled := (toInteger_eq_zero.mp hread).resolve_left hzero
    exact addsZero_of_spellsZero hgiven hspelled hzero

/-- A zero with a fraction selects the subscription zero, and is one source too many beside all
subscriptions, where a single digit is none. -/
theorem zero_subscription_withFraction :
    (∃ o, ofEntries [(.ofText "subscription_id", .ofText "0.0")] = .ok o ∧
      o.subscription = some 0) ∧
    ofEntries [(.ofText "subscription_id", .ofText "0.0"), (.ofText "fetch_all", .bool true)] =
      .error (.problems [⟨none, .severalSources⟩]) ∧
    ofEntries [(.ofText "subscription_id", .ofText "0"), (.ofText "fetch_all", .bool true)] =
      ofEntries [(.ofText "fetch_all", .bool true)] := by
  have hread : toInteger (.ofText "0.0") = .ok 0 := by decide
  have hzero : ¬IsZero (.ofText "0.0") := by
    rw [← isNoId_iff]
    decide
  refine ⟨?_, ?_, ?_⟩
  · have hadds := ((zero_subscription [(.ofText "subscription_id", .ofText "0.0")]).2.1
      _ rfl hread).2 hzero
    have hwithout : ofEntries (Value.erase [(.ofText "subscription_id", .ofText "0.0")]
      "subscription_id") = .error (.problems [⟨none, .noSource⟩]) := rfl
    rw [hwithout] at hadds
    cases hadds with
    | alone h => exact ⟨_, rfl, h⟩
  · have hadds := ((zero_subscription [(.ofText "subscription_id", .ofText "0.0"),
      (.ofText "fetch_all", .bool true)]).2.1 _ rfl hread).2 hzero
    obtain ⟨o, hwithout⟩ : ∃ o, ofEntries (Value.erase [(.ofText "subscription_id", .ofText "0.0"),
      (.ofText "fetch_all", .bool true)] "subscription_id") = .ok o := ⟨_, rfl⟩
    rw [hwithout] at hadds
    generalize ofEntries [(.ofText "subscription_id", .ofText "0.0"),
      (.ofText "fetch_all", .bool true)] = result at hadds ⊢
    cases hadds
    rfl
  · have hplain : toInteger (.ofText "0") = .ok 0 := by decide
    exact ((zero_subscription [(.ofText "subscription_id", .ofText "0"),
      (.ofText "fetch_all", .bool true)]).2.1 _ rfl hplain).1.mpr (.inl (.inr rfl))

end FetchOptions

end LinkHarvest.Options
