import LinkHarvest.Proofs.Data.Value
import LinkHarvest.Proofs.Link.Fields
import Mathlib.Tactic.FinCases

/-!
# Attributes that fields set

What a field reads is said by `Field.Reads`: text as it is displayed, an integer as it stands in the
displayed text, in either case from the first item of a list and never from null. Several fields may
set one attribute. It is then set to what the last of those reads that read anything, and an
attribute for which nothing is read is not set (`readFields_attributes`).

The entries are only asked for the keys of the fields (`readFields_congr`).
-/

namespace LinkHarvest.Link

variable {fields : List Field} {values others : List (Value × Value)} {f : Field}
  {entry v : Value} {d : Detail} {a : Text}

/-! ## What a field reads -/

/-- The value that an entry stands for: that of a list is its first item. Null stands for nothing. -/
inductive Stands : Value → Value → Prop
  | first {v : Value} {rest : List Value} (h : v ≠ .null) : Stands (.list (v :: rest)) v
  | itself {v : Value} (hlist : ∀ items, v ≠ .list items) (h : v ≠ .null) : Stands v v

/-- What a field reads from the entries of a mapping. -/
inductive Field.Reads (f : Field) (values : List (Value × Value)) : Detail → Prop
  | text {entry v : Value} (hkind : f.kind = .text)
      (hentry : Value.find? values f.name = some entry) (h : Stands entry v) :
      f.Reads values (.text v.display)
  | integer {entry v : Value} {t : Text} {n : Int} (hkind : f.kind = .integer)
      (hentry : Value.find? values f.name = some entry) (h : Stands entry v)
      (ht : v.display = .ofText t) (hn : Integer.read? (Text.trim t) = some n) :
      f.Reads values (.int n)

theorem stands_iff : Stands entry v ↔ Field.scalar? entry = some v ∧ v ≠ .null := by
  constructor
  · rintro (h | ⟨hlist, h⟩)
    · exact ⟨rfl, h⟩
    · refine ⟨?_, h⟩
      cases entry <;> first | rfl | exact absurd rfl (hlist _)
  · rintro ⟨hscalar, h⟩
    cases entry with
    | list items =>
      cases items with
      | nil => cases hscalar
      | cons first rest =>
        cases hscalar
        exact .first h
    | _ =>
      cases hscalar
      exact .itself nofun h

theorem ofValue?_of_stands (h : Stands entry v) (kind : FieldKind) :
    Field.ofValue? kind entry =
      match kind with
      | .text => some (.text v.display)
      | .integer => v.display.toText?.bind fun t =>
        (Integer.read? (Text.trim t)).bind fun n => some (.int n) := by
  obtain ⟨hscalar, hnull⟩ := stands_iff.mp h
  unfold Field.ofValue?
  rw [hscalar]
  cases v with
  | null => exact absurd rfl hnull
  | _ => cases kind <;> simp only [Option.bind_eq_bind, Option.bind_some, Option.pure_def]

theorem ofValue?_eq_none (h : ∀ v, ¬ Stands entry v) (kind : FieldKind) :
    Field.ofValue? kind entry = none := by
  unfold Field.ofValue?
  cases hscalar : Field.scalar? entry with
  | none => rfl
  | some v =>
    have hnull : v = .null := by
      by_contra hne
      exact h v (stands_iff.mpr ⟨hscalar, hne⟩)
    rw [hnull]
    rfl

/-- **A field reads what `Reads` says**, and nothing else. -/
theorem read?_eq_some : f.read? values = some d ↔ f.Reads values d := by
  unfold Field.read?
  constructor
  · intro h
    obtain ⟨entry, hentry, hvalue⟩ := Option.bind_eq_some_iff.mp h
    obtain ⟨v, hv⟩ : ∃ v, Stands entry v := by
      by_contra hnone
      rw [ofValue?_eq_none (not_exists.mp hnone)] at hvalue
      cases hvalue
    rw [ofValue?_of_stands hv] at hvalue
    cases hkind : f.kind with
    | text =>
      rw [hkind] at hvalue
      cases hvalue
      exact .text hkind hentry hv
    | integer =>
      rw [hkind] at hvalue
      obtain ⟨t, ht, hnumber⟩ := Option.bind_eq_some_iff.mp hvalue
      obtain ⟨n, hn, hd⟩ := Option.bind_eq_some_iff.mp hnumber
      cases hd
      exact .integer hkind hentry hv (LooseText.eq_ofText ht) hn
  · rintro (⟨hkind, hentry, hv⟩ | ⟨hkind, hentry, hv, ht, hn⟩)
    · rw [hentry, Option.bind_some, ofValue?_of_stands hv, hkind]
    · rw [hentry, Option.bind_some, ofValue?_of_stands hv, hkind]
      dsimp only
      rw [ht, LooseText.toText?_ofText, Option.bind_some, hn, Option.bind_some]

/-! ## What several fields set -/

theorem detail?_eq_some :
    Field.detail? values f = some (a, d) ↔ f.attributeName = a ∧ f.Reads values d := by
  rw [Field.detail?, Option.map_eq_some_iff, ← read?_eq_some]
  simp only [Prod.mk.injEq]
  grind

theorem mem_names_details : a ∈ (fields.filterMap (Field.detail? values)).map Prod.fst ↔
    ∃ f ∈ fields, f.attributeName = a ∧ ∃ d, f.Reads values d := by
  simp only [List.mem_map, List.mem_filterMap, Prod.exists, exists_and_right, exists_eq_right,
    detail?_eq_some]
  grind

theorem mem_names_readFields : a ∈ (readFields fields values).map Prod.fst ↔
    ∃ f ∈ fields, f.attributeName = a ∧ ∃ d, f.Reads values d := by
  rw [readFields_eq_update, Details.mem_names_update, mem_names_details]
  simp

/-- **The last field that reads anything decides** what an attribute is set to. -/
theorem mem_readFields : (a, d) ∈ readFields fields values ↔
    ∃ before f after, fields = before ++ f :: after ∧ f.attributeName = a ∧ f.Reads values d ∧
      ∀ g ∈ after, g.attributeName = a → ∀ e, ¬ g.Reads values e := by
  have hnone : (([] : Details).map Prod.fst).Nodup := List.nodup_nil
  rw [readFields_eq_update, Details.mem_update hnone]
  constructor
  · rintro (⟨before, after, hdetails, hlast⟩ | ⟨hmem, -⟩)
    · obtain ⟨first, rest, rfl, -, hrest⟩ := List.filterMap_eq_append_iff.mp hdetails
      obtain ⟨skipped, f, more, rfl, -, hf, rfl⟩ := List.filterMap_eq_cons_iff.mp hrest
      obtain ⟨hname, hread⟩ := detail?_eq_some.mp hf
      refine ⟨first ++ skipped, f, more, by simp, hname, hread, fun g hg hgname e he => hlast ?_⟩
      exact mem_names_details.mpr ⟨g, hg, hgname, e, he⟩
    · cases hmem
  · rintro ⟨before, f, after, rfl, hname, hread, hlast⟩
    have hset : Field.detail? values f = some (a, d) := detail?_eq_some.mpr ⟨hname, hread⟩
    refine .inl ⟨_, _, by rw [List.filterMap_append, List.filterMap_cons_some hset], fun hmem => ?_⟩
    obtain ⟨g, hg, hgname, e, he⟩ := mem_names_details.mp hmem
    exact hlast g hg hgname e he

theorem readFields_congr (h : ∀ f ∈ fields, Value.find? others f.name = Value.find? values f.name) :
    readFields fields others = readFields fields values := by
  rw [readFields_eq_update, readFields_eq_update]
  refine congrArg _ (List.filterMap_congr fun f hf => ?_)
  rw [Field.detail?, Field.read?, h f hf]
  rfl

/-- **Fields set the attributes for which they read something**, each of them once, to what the last
of its fields reads that reads anything. Keys that are those of no field make no difference. -/
theorem readFields_attributes (fields : List Field) (values : List (Value × Value)) :
    ((readFields fields values).map Prod.fst).Nodup ∧
      (∀ a, a ∈ (readFields fields values).map Prod.fst ↔
        ∃ f ∈ fields, f.attributeName = a ∧ ∃ d, f.Reads values d) ∧
      (∀ a d, (a, d) ∈ readFields fields values ↔
        ∃ before f after, fields = before ++ f :: after ∧ f.attributeName = a ∧
          f.Reads values d ∧ ∀ g ∈ after, g.attributeName = a → ∀ e, ¬ g.Reads values e) ∧
      ∀ others, (∀ f ∈ fields, Value.find? others f.name = Value.find? values f.name) →
        readFields fields others = readFields fields values := by
  have hnone : (([] : Details).map Prod.fst).Nodup := List.nodup_nil
  refine ⟨?_, fun a => mem_names_readFields, fun a d => mem_readFields, fun _ => readFields_congr⟩
  rw [readFields_eq_update]
  exact Details.nodup_update hnone _

def sharedFields : List Field :=
  [⟨"a", some "x".toList, .text⟩, ⟨"b", some "x".toList, .integer⟩,
    ⟨"c", some "x".toList, .integer⟩]

/-- Values for them, of which the last one is no integer. -/
def sharedValues : List (Value × Value) :=
  [(.ofText "a", .ofText "1"), (.ofText "b", .list [.ofText " 4_2\u00a0", .null]),
    (.ofText "c", .bool true)]

/-- The second field decides, also where there is another key. -/
theorem readFields_sharedFields :
    ("x".toList, .int 42) ∈ readFields sharedFields sharedValues ∧
      readFields sharedFields (sharedValues ++ [(.ofText "y", .int 7)]) =
        readFields sharedFields sharedValues := by
  obtain ⟨-, -, hmem, hkeys⟩ := readFields_attributes sharedFields sharedValues
  have hsecond : (sharedFields[1]).read? sharedValues = some (.int 42) := by decide +kernel
  have hthird : (sharedFields[2]).read? sharedValues = none := by decide +kernel
  refine ⟨(hmem _ _).mpr ⟨sharedFields.take 1, sharedFields[1], sharedFields.drop 2, rfl, rfl,
    read?_eq_some.mp hsecond, ?_⟩, hkeys _ ?_⟩
  · intro g hg _ e he
    obtain rfl : g = sharedFields[2] := List.mem_singleton.mp hg
    rw [read?_eq_some.mpr he] at hthird
    cases hthird
  · intro f hf
    fin_cases hf <;> rfl

end LinkHarvest.Link
