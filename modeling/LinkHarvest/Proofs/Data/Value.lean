import LinkHarvest.Data.Value
import Mathlib.Data.List.Basic

/-!
# Mappings with text keys

A text is the same key as itself and as nothing else (`sameKey_text`). So writing under a text
changes what is read under this text alone (`find?_put_text`), and so does erasing (`find?_erase`).
Text that is read loosely either is a text or shows a replacement character
(`LooseText.replacement_mem`).
-/

namespace LinkHarvest

theorem LooseText.ofText_injective : Function.Injective LooseText.ofText :=
  List.map_injective_iff.mpr fun _ _ h => CodePoint.char.inj h

theorem LooseText.toText?_ofText (t : Text) : (LooseText.ofText t).toText? = some t := by
  induction t with
  | nil => rfl
  | cons c t ih =>
    unfold LooseText.toText? at ih ⊢
    rw [ofText, List.map_cons, List.mapM_cons]
    rw [ofText] at ih
    rw [ih]
    rfl

theorem LooseText.eq_ofText {t : LooseText} {u : Text} (h : t.toText? = some u) :
    t = LooseText.ofText u := by
  induction t generalizing u with
  | nil =>
    cases h
    rfl
  | cons p t ih =>
    rw [toText?, List.mapM_cons] at h
    obtain ⟨c, hc, h⟩ := Option.bind_eq_some_iff.mp h
    obtain ⟨rest, hrest, h⟩ := Option.bind_eq_some_iff.mp h
    cases h
    cases p with
    | half n => cases hc
    | char d =>
      cases hc
      rw [ih hrest]
      rfl

theorem LooseText.toText_ofText (t : Text) : (LooseText.ofText t).toText = t := by
  rw [ofText, toText, List.map_map]
  exact List.map_id t

theorem LooseText.replacement_mem {t : LooseText} (h : t.toText? = none) :
    '\uFFFD' ∈ t.toText := by
  by_contra hmem
  have hchars : ∀ p ∈ t, ∃ c, p = .char c := by
    intro p hp
    cases p with
    | char c => exact ⟨c, rfl⟩
    | half code => exact absurd (List.mem_map_of_mem hp) hmem
  have heq : t = LooseText.ofText t.toText := by
    rw [ofText, toText, List.map_map]
    conv_lhs => rw [← List.map_id t]
    refine List.map_congr_left fun p hp => ?_
    obtain ⟨c, rfl⟩ := hchars p hp
    rfl
  rw [heq, toText?_ofText] at h
  cases h

namespace Value

variable {entries : List (Value × Value)} {name key : Text} {v : Value}

theorem ofText_injective : Function.Injective ofText := fun _ _ h =>
  LooseText.ofText_injective (Value.text.inj h)

theorem sameKey_text {k : Value} {t : LooseText} : k.sameKey (.text t) = true ↔ k = .text t := by
  cases k with
  | text t => simp [sameKey, asInt?]
  | float x =>
    simp only [sameKey, asInt?]
    split <;> simp_all
  | _ => simp [sameKey, asInt?]

theorem sameKey_ofText {k : Value} : k.sameKey (ofText key) = true ↔ k = ofText key := sameKey_text

theorem find?_nil (name : Text) : find? [] name = none := rfl

theorem find?_cons (k v : Value) (entries : List (Value × Value)) (name : Text) :
    find? ((k, v) :: entries) name =
      if k.sameKey (ofText name) then some v else find? entries name := by
  unfold find?
  rw [List.find?_cons]
  cases k.sameKey (ofText name) <;> rfl

theorem sameKey_ofText_ofText (key name : Text) :
    (ofText key).sameKey (ofText name) = decide (key = name) := by
  rw [Bool.eq_iff_iff, sameKey_ofText, decide_eq_true_eq]
  exact ofText_injective.eq_iff

theorem find?_put_text (entries : List (Value × Value)) (t : LooseText) (v : Value) (name : Text) :
    find? (put entries (.text t) v) name =
      if t = .ofText name then some v else find? entries name := by
  have hkey : (text t).sameKey (ofText name) = decide (t = .ofText name) := by
    rw [Bool.eq_iff_iff, sameKey_ofText, decide_eq_true_eq, ofText, Value.text.injEq]
  induction entries with
  | nil =>
    rw [put, find?_cons, hkey]
    simp
  | cons e entries ih =>
    obtain ⟨k, w⟩ := e
    rw [put]
    cases hk : k.sameKey (.text t) with
    | true =>
      cases sameKey_text.mp hk
      rw [if_pos rfl, find?_cons, find?_cons, hkey]
      by_cases h : t = .ofText name <;> simp [h]
    | false =>
      have hne : k = ofText name → ¬t = .ofText name := by
        rintro rfl rfl
        exact Bool.false_ne_true (hk.symm.trans (sameKey_text.mpr rfl))
      rw [if_neg (by simp), find?_cons, find?_cons, ih]
      cases hname : k.sameKey (ofText name) with
      | true => simp [hne (sameKey_ofText.mp hname)]
      | false => rfl

theorem find?_put (entries : List (Value × Value)) (key : Text) (v : Value) (name : Text) :
    find? (put entries (ofText key) v) name =
      if key = name then some v else find? entries name := by
  rw [ofText, find?_put_text]
  simp only [LooseText.ofText_injective.eq_iff]

/-- The entries without those under a text. -/
def erase (entries : List (Value × Value)) (key : Text) : List (Value × Value) :=
  entries.filter fun e => !e.1.sameKey (ofText key)

theorem find?_erase (entries : List (Value × Value)) (key name : Text) :
    find? (erase entries key) name = if key = name then none else find? entries name := by
  unfold find? erase
  rw [List.find?_filter]
  split
  · rename_i hname
    rw [hname]
    simp
  · rename_i hname
    refine congrArg (fun f => (entries.find? f).map (·.2)) (funext fun e => ?_)
    -- What is under the other text is kept.
    cases hkey : e.1.sameKey (ofText name) with
    | false => simp
    | true =>
      rw [sameKey_ofText.mp hkey, sameKey_ofText_ofText]
      simp [Ne.symm hname]

theorem find?_concat (entries : List (Value × Value)) (key : Text) (v : Value) (name : Text) :
    find? (entries ++ [(ofText key, v)]) name =
      (find? entries name).orElse fun _ => if key = name then some v else none := by
  induction entries with
  | nil =>
    rw [List.nil_append, find?_cons, sameKey_ofText_ofText]
    by_cases h : key = name <;> simp [h, find?_nil]
  | cons e entries ih =>
    obtain ⟨k, w⟩ := e
    rw [List.cons_append, find?_cons, find?_cons, ih]
    cases k.sameKey (ofText name) <;> rfl

end Value

end LinkHarvest
