import LinkHarvest.Link.Field
import LinkHarvest.Proofs.Number.Numeral
import LinkHarvest.Proofs.Text.Visible
import LinkHarvest.Proofs.Url.Query
import Mathlib.Data.List.Nodup

/-!
# Fields read back from a query

A query that gives some of the declared fields, once each, in any order and among any undeclared
parameters, is read as exactly these fields with the values that were given
(`readFields_parameters`). Two properties of a list of fields are used: no two of them are read from
one key, and no two set one attribute. Whether they do or not, reading fields sets their details one
after the other (`readFields_eq_update`), and the last one wins (`Details.mem_update`).
-/

namespace LinkHarvest

/-! ## Setting attributes -/

namespace Details

variable {details more : Details} {name a : Text} {value d : Detail}

theorem set_of_not_mem (h : name ∉ details.map Prod.fst) (value : Detail) :
    details.set name value = details ++ [(name, value)] := by
  induction details with
  | nil => rfl
  | cons e details ih =>
    obtain ⟨a, v⟩ := e
    obtain ⟨hne, hrest⟩ := not_or.mp (mt List.mem_cons.mpr h)
    rw [set, if_neg (Ne.symm hne), ih hrest]
    rfl

theorem names_set (details : Details) (name : Text) (value : Detail) :
    (details.set name value).map Prod.fst =
      if name ∈ details.map Prod.fst then details.map Prod.fst
      else details.map Prod.fst ++ [name] := by
  induction details with
  | nil => rfl
  | cons e details ih =>
    obtain ⟨b, v⟩ := e
    rw [set]
    by_cases hb : b = name
    · simp [hb]
    · rw [if_neg hb, List.map_cons, ih]
      by_cases hmem : name ∈ details.map Prod.fst
      · have hold : name ∈ ((b, v) :: details).map Prod.fst := List.mem_cons_of_mem _ hmem
        rw [if_pos hmem, if_pos hold]
        rfl
      · have hnew : name ∉ ((b, v) :: details).map Prod.fst :=
          List.not_mem_cons_of_ne_of_not_mem (Ne.symm hb) hmem
        rw [if_neg hmem, if_neg hnew]
        rfl

theorem mem_names_set :
    a ∈ (details.set name value).map Prod.fst ↔ a = name ∨ a ∈ details.map Prod.fst := by
  rw [names_set]
  split
  · rename_i hmem
    exact ⟨.inr, fun h => h.elim (fun heq => heq ▸ hmem) id⟩
  · rw [List.mem_append, List.mem_singleton, or_comm]

theorem nodup_set (h : (details.map Prod.fst).Nodup) (name : Text) (value : Detail) :
    ((details.set name value).map Prod.fst).Nodup := by
  rw [names_set]
  split
  · exact h
  · rename_i hnew
    exact List.nodup_append.mpr ⟨h, List.nodup_singleton name, by
      rintro b hb _ hb' rfl
      exact hnew (List.mem_singleton.mp hb' ▸ hb)⟩

theorem mem_set (h : (details.map Prod.fst).Nodup) :
    (a, d) ∈ details.set name value ↔
      a = name ∧ d = value ∨ a ≠ name ∧ (a, d) ∈ details := by
  induction details with
  | nil => simp [set]
  | cons e details ih =>
    obtain ⟨b, v⟩ := e
    obtain ⟨hnew, hrest⟩ := List.nodup_cons.mp h
    rw [set]
    by_cases hb : b = name
    · subst hb
      have hothers : (a, d) ∈ details → a ≠ b := by
        rintro hmem rfl
        exact hnew (List.mem_map.mpr ⟨_, hmem, rfl⟩)
      rw [if_pos rfl]
      grind
    · rw [if_neg hb, List.mem_cons, ih hrest]
      grind

theorem get?_set_of_ne (h : a ≠ name) (value : Detail) :
    (details.set a value).get? name = details.get? name := by
  induction details with
  | nil => simp [set, get?, h]
  | cons e details ih =>
    obtain ⟨b, v⟩ := e
    unfold get? at ih ⊢
    rw [set]
    by_cases hb : b = a
    · subst hb
      simp [h]
    · rw [if_neg hb, List.find?_cons, List.find?_cons]
      cases decide (b = name) with
      | true => rfl
      | false => exact ih

/-! ## Setting several attributes -/

theorem update_of_nodup (h : ((details ++ more).map Prod.fst).Nodup) :
    details.update more = details ++ more := by
  induction more generalizing details with
  | nil => rw [List.append_nil]; rfl
  | cons e more ih =>
    have hassoc : details ++ e :: more = (details ++ [e]) ++ more := by simp
    have hnew : e.1 ∉ details.map Prod.fst := by
      rw [List.map_append, List.nodup_append] at h
      exact fun hmem => h.2.2 _ hmem _ List.mem_cons_self rfl
    rw [hassoc] at h ⊢
    rw [← ih h, update, List.foldl_cons, set_of_not_mem hnew]
    rfl

theorem nodup_update (h : (details.map Prod.fst).Nodup) (more : Details) :
    ((details.update more).map Prod.fst).Nodup := by
  induction more generalizing details with
  | nil => exact h
  | cons e more ih => exact ih (nodup_set h e.1 e.2)

theorem mem_names_update :
    a ∈ (details.update more).map Prod.fst ↔
      a ∈ details.map Prod.fst ∨ a ∈ more.map Prod.fst := by
  induction more generalizing details with
  | nil => simp [update]
  | cons e more ih =>
    refine (@ih (details.set e.1 e.2)).trans ?_
    rw [mem_names_set, List.map_cons, List.mem_cons, or_comm (a := a = e.1), or_assoc]

theorem get?_update_of_not_mem (h : name ∉ more.map Prod.fst) :
    (details.update more).get? name = details.get? name := by
  induction more generalizing details with
  | nil => rfl
  | cons e more ih =>
    obtain ⟨hne, hrest⟩ := not_or.mp (mt List.mem_cons.mpr h)
    exact (ih hrest).trans (get?_set_of_ne (Ne.symm hne) e.2)

/-- **The last one wins**: an attribute has what it is set to last, or what it had before. -/
theorem mem_update (h : (details.map Prod.fst).Nodup) :
    (a, d) ∈ details.update more ↔
      (∃ before after, more = before ++ (a, d) :: after ∧ a ∉ after.map Prod.fst) ∨
        (a, d) ∈ details ∧ a ∉ more.map Prod.fst := by
  induction more generalizing details with
  | nil => simp [update]
  | cons e more ih =>
    obtain ⟨name, value⟩ := e
    refine (ih (nodup_set h name value)).trans ?_
    rw [mem_set h, List.map_cons, List.mem_cons]
    constructor
    · rintro (⟨before, after, rfl, hlast⟩ | ⟨⟨rfl, rfl⟩ | ⟨hne, hmem⟩, hlast⟩)
      · exact .inl ⟨(name, value) :: before, after, rfl, hlast⟩
      · exact .inl ⟨[], more, rfl, hlast⟩
      · exact .inr ⟨hmem, not_or.mpr ⟨hne, hlast⟩⟩
    · rintro (⟨before, after, heq, hlast⟩ | ⟨hmem, hnew⟩)
      · cases before with
        | nil =>
          cases heq
          exact .inr ⟨.inl ⟨rfl, rfl⟩, hlast⟩
        | cons e before =>
          cases heq
          exact .inl ⟨before, after, rfl, hlast⟩
      · obtain ⟨hne, hlast⟩ := not_or.mp hnew
        exact .inr ⟨.inr ⟨hne, hmem⟩, hlast⟩

end Details

namespace Link

variable {fields : List Field} {values : List (Value × Value)}

/-- The detail that a field sets, if it can be read. -/
def Field.detail? (values : List (Value × Value)) (f : Field) : Option (Text × Detail) :=
  (f.read? values).map fun v => (f.attributeName, v)

theorem readFields_eq_update (fields : List Field) (values : List (Value × Value)) :
    readFields fields values = Details.update [] (fields.filterMap (Field.detail? values)) := by
  unfold Details.update
  rw [List.foldl_filterMap, readFields]
  congr 1
  funext details f
  rw [Field.detail?]
  cases f.read? values <;> rfl

theorem names_sublist (fields : List Field) (values : List (Value × Value)) :
    ((fields.filterMap (Field.detail? values)).map Prod.fst).Sublist
      (fields.map Field.attributeName) := by
  induction fields with
  | nil => exact .slnil
  | cons f fields ih =>
    rw [List.filterMap_cons, Field.detail?]
    cases f.read? values with
    | none => exact ih.cons _
    | some d => exact ih.cons_cons _

theorem readFields_eq (h : (fields.map Field.attributeName).Nodup)
    (values : List (Value × Value)) :
    readFields fields values = fields.filterMap (Field.detail? values) := by
  rw [readFields_eq_update, Details.update_of_nodup (h.sublist (names_sublist fields values)),
    List.nil_append]

/-! ## Given fields -/

/-- A value for a field of the given kind. -/
inductive FieldValue : FieldKind → Type
  | text (t : Text) : FieldValue .text
  | integer (n : Int) (short : (Text.ofNat n.natAbs).length ≤ Integer.digitLimit) :
      FieldValue .integer

namespace FieldValue

variable {kind : FieldKind}

/-- The value as a link writes it, before it is escaped. -/
def written : FieldValue kind → Text
  | .text t => t
  | .integer n _ => Text.ofInt n

def detail : FieldValue kind → Detail
  | .text t => .text (.ofText t)
  | .integer n _ => .int n

theorem ofValue?_written (v : FieldValue kind) (more : List Value) :
    Field.ofValue? kind (.list (Value.ofText v.written :: more)) = some v.detail := by
  cases v with
  | text t => rfl
  | integer n short =>
    have hvisible : Text.Visible (Text.ofInt n) := fun _ hc => Integer.visible_ofInt hc
    have htext : (LooseText.ofText (Text.ofInt n)).toText?.bind (fun t =>
        (Integer.read? (Text.trim t)).bind fun n => some (Detail.int n)) = some (.int n) := by
      rw [LooseText.toText?_ofText, Option.bind_some, hvisible.trim, Integer.read?_ofInt short]
      rfl
    exact htext

end FieldValue

/-- A field with a value. -/
structure Given where
  field : Field
  value : FieldValue field.kind

namespace Given

def parameter (g : Given) : Text × Text := (g.field.name, g.value.written)

def detail (g : Given) : Text × Detail := (g.field.attributeName, g.value.detail)

end Given

section Parameters

variable {given : List Given} {extra ps : List (Text × Text)}

theorem valuesOf_given {g : Given} (hnames : (given.map fun g => g.field.name).Nodup)
    (hg : g ∈ given) :
    Url.Query.valuesOf (given.map Given.parameter) g.field.name =
      [Value.ofText g.value.written] := by
  induction given with
  | nil => cases hg
  | cons x given ih =>
    obtain ⟨hx, hrest⟩ := List.nodup_cons.mp hnames
    rw [List.map_cons, Url.Query.valuesOf_cons]
    rcases List.mem_cons.mp hg with rfl | hg
    · have hnone : Url.Query.valuesOf (given.map Given.parameter) g.field.name = [] := by
        refine Url.Query.valuesOf_eq_nil (List.forall_mem_map.mpr fun y hy heq => hx ?_)
        exact List.mem_map.mpr ⟨y, hy, heq⟩
      rw [hnone, List.append_nil]
      exact if_pos rfl
    · have hne : x.parameter.1 ≠ g.field.name := fun heq =>
        hx (List.mem_map.mpr ⟨g, hg, heq.symm⟩)
      rw [if_neg hne, List.nil_append, ih hrest hg]

theorem filterMap_eq_of_sublist {α β : Type} {F : α → Option β} {l₁ l₂ : List α}
    (h : l₁.Sublist l₂) (hnodup : l₂.Nodup) (hnone : ∀ a ∈ l₂, a ∉ l₁ → F a = none) :
    l₂.filterMap F = l₁.filterMap F := by
  induction h with
  | slnil => rfl
  | @cons l₁ l₂ a h ih =>
    obtain ⟨ha, hrest⟩ := List.nodup_cons.mp hnodup
    rw [List.filterMap_cons_none (hnone a List.mem_cons_self fun hmem => ha (h.subset hmem))]
    exact ih hrest fun b hb => hnone b (List.mem_cons_of_mem _ hb)
  | @cons_cons l₁ l₂ a h ih =>
    obtain ⟨ha, hrest⟩ := List.nodup_cons.mp hnodup
    have heq := ih hrest fun b hb hnot => hnone b (List.mem_cons_of_mem _ hb) fun hmem => by
      rcases List.mem_cons.mp hmem with rfl | hmem
      · exact ha hb
      · exact hnot hmem
    rw [List.filterMap_cons, List.filterMap_cons, heq]

/-- **Given fields are read as they were given**, whatever the order of the parameters. -/
theorem readFields_parameters (hnames : (fields.map Field.name).Nodup)
    (hattributes : (fields.map Field.attributeName).Nodup)
    (hgiven : (given.map Given.field).Sublist fields)
    (hextra : ∀ p ∈ extra, p.1 ∉ fields.map Field.name)
    (hps : ps.Perm (given.map Given.parameter ++ extra)) :
    readFields fields (Url.Query.parameters (Url.Query.text ps)) = given.map Given.detail := by
  have hread (f : Field) : f.read? (Url.Query.parameters (Url.Query.text ps)) =
      (Url.Query.bound (Url.Query.valuesOf ps f.name)).bind (Field.ofValue? f.kind) := by
    rw [Field.read?, Url.Query.find?_parameters_text]
  have hothers (f : Field) (hf : f ∈ fields) : Url.Query.valuesOf extra f.name = [] :=
    Url.Query.valuesOf_eq_nil fun p hp heq =>
      hextra p hp (List.mem_map.mpr ⟨f, hf, heq.symm⟩)
  have hgivenNames : (given.map fun g => g.field.name).Nodup := by
    have hsub := hgiven.map Field.name
    rw [List.map_map] at hsub
    exact hnames.sublist hsub
  have hinside : ∀ g ∈ given,
      Field.detail? (Url.Query.parameters (Url.Query.text ps)) g.field = some g.detail := by
    intro g hg
    have hmem : g.field ∈ fields := hgiven.subset (List.mem_map_of_mem hg)
    have hvalues := Url.Query.valuesOf_perm hps g.field.name
    rw [Url.Query.valuesOf_append, valuesOf_given hgivenNames hg, hothers _ hmem,
      List.append_nil, List.perm_singleton] at hvalues
    rw [Field.detail?, hread, hvalues, Url.Query.bound_cons, Option.bind_some,
      FieldValue.ofValue?_written]
    rfl
  have houtside : ∀ f ∈ fields, f ∉ given.map Given.field →
      Field.detail? (Url.Query.parameters (Url.Query.text ps)) f = none := by
    intro f hf hnot
    have hnone : Url.Query.valuesOf (given.map Given.parameter) f.name = [] := by
      refine Url.Query.valuesOf_eq_nil (List.forall_mem_map.mpr fun g hg heq => hnot ?_)
      have hmem : g.field ∈ fields := hgiven.subset (List.mem_map_of_mem hg)
      exact List.mem_map.mpr ⟨g, hg, List.inj_on_of_nodup_map hnames hmem hf heq⟩
    have hvalues := Url.Query.valuesOf_perm hps f.name
    rw [Url.Query.valuesOf_append, hnone, hothers f hf, List.append_nil, List.perm_nil] at hvalues
    rw [Field.detail?, hread, hvalues]
    rfl
  rw [readFields_eq hattributes,
    filterMap_eq_of_sublist hgiven (List.Nodup.of_map _ hnames) houtside, List.filterMap_map]
  exact (List.filterMap_congr hinside).trans (congrFun List.filterMap_eq_map given)

end Parameters

end Link

end LinkHarvest
