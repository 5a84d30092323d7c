import LlmMaxxing.Lib.JsonRoundTrip
import LlmMaxxing.Lib.PyValueText

/-!
# Values up to order

`Reordered arrays` relates values that differ in the order of the members of objects, and also in the
order of the items of arrays where `arrays` holds. Canonical text is one and the same for values up to
the order of members, and for no others: `render_eq_iff`.
-/

namespace Json

/-- The least congruence that lets members, and items where `arrays`, change places. -/
inductive Reordered (arrays : Prop) : Json → Json → Prop where
  | refl (v : Json) : Reordered arrays v v
  | symm {v w : Json} : Reordered arrays v w → Reordered arrays w v
  | trans {u v w : Json} : Reordered arrays u v → Reordered arrays v w → Reordered arrays u w
  | members {fs gs : List (String × Json)} : fs.Perm gs → Reordered arrays (.obj fs) (.obj gs)
  | items {as bs : List Json} : arrays → as.Perm bs → Reordered arrays (.arr as) (.arr bs)
  | member (k : String) (before after : List (String × Json)) {v w : Json} :
    Reordered arrays v w →
      Reordered arrays (.obj (before ++ (k, v) :: after)) (.obj (before ++ (k, w) :: after))
  | item (before after : List Json) {v w : Json} :
    Reordered arrays v w →
      Reordered arrays (.arr (before ++ v :: after)) (.arr (before ++ w :: after))

/-- Equal up to the order of object members. -/
abbrev SameMembers : Json → Json → Prop := Reordered False

/-- Equal up to the order of object members and of array items. -/
abbrev SameCollections : Json → Json → Prop := Reordered True

variable {arrays : Prop}

theorem Reordered.mono {arrays' : Prop} (h : arrays → arrays') {v w : Json}
    (hvw : Reordered arrays v w) : Reordered arrays' v w := by
  induction hvw with
  | refl v => exact .refl v
  | symm _ ih => exact .symm ih
  | trans _ _ ih₁ ih₂ => exact .trans ih₁ ih₂
  | members hperm => exact .members hperm
  | items harrays hperm => exact .items (h harrays) hperm
  | member k before after _ ih => exact .member k before after ih
  | item before after _ ih => exact .item before after ih

/-! ## Places -/

/-- Item by item. -/
theorem reordered_arr {as bs : List Json} (h : List.Forall₂ (Reordered arrays) as bs) :
    Reordered arrays (.arr as) (.arr bs) := by
  have hbefore : ∀ before, Reordered arrays (.arr (before ++ as)) (.arr (before ++ bs)) := by
    induction h with
    | nil => exact fun before => .refl _
    | @cons a b as bs hab _ ih =>
      intro before
      refine .trans (.item before as hab) ?_
      have htail := ih (before ++ [b])
      rw [List.append_assoc, List.append_assoc] at htail
      exact htail
  exact hbefore []

/-- Member by member. -/
theorem reordered_obj {fs gs : List (String × Json)}
    (h : List.Forall₂ (fun q r => q.1 = r.1 ∧ Reordered arrays q.2 r.2) fs gs) :
    Reordered arrays (.obj fs) (.obj gs) := by
  have hbefore : ∀ before, Reordered arrays (.obj (before ++ fs)) (.obj (before ++ gs)) := by
    induction h with
    | nil => exact fun before => .refl _
    | @cons q r fs gs hqr _ ih =>
      intro before
      obtain ⟨k, v⟩ := q
      obtain ⟨k', w⟩ := r
      obtain ⟨rfl, hvw⟩ := hqr
      refine .trans (.member k before fs hvw) ?_
      have htail := ih (before ++ [(k, w)])
      rw [List.append_assoc, List.append_assoc] at htail
      exact htail
  exact hbefore []

theorem reordered_map_arr {f : Json → Json} {items : List Json}
    (h : ∀ v ∈ items, Reordered arrays v (f v)) :
    Reordered arrays (.arr items) (.arr (items.map f)) := by
  refine reordered_arr ?_
  rw [List.forall₂_map_right_iff]
  exact List.forall₂_same.mpr h

theorem reordered_map_obj {f : String → Json → Json} {fields : List (String × Json)}
    (h : ∀ q ∈ fields, Reordered arrays q.2 (f q.1 q.2)) :
    Reordered arrays (.obj fields) (.obj (fields.map fun q => (q.1, f q.1 q.2))) := by
  refine reordered_obj ?_
  rw [List.forall₂_map_right_iff]
  exact List.forall₂_same.mpr fun q hq => ⟨rfl, h q hq⟩

/-! ## What stays -/

/-- Names stay distinct and integers are the same. -/
theorem Reordered.holds_iff {p : Int → Prop} {v w : Json} (h : Reordered arrays v w) :
    v.Holds p ↔ w.Holds p := by
  induction h with
  | refl v => rfl
  | symm _ ih => exact ih.symm
  | trans _ _ ih₁ ih₂ => exact ih₁.trans ih₂
  | members hperm =>
    rw [holds_obj, holds_obj, (hperm.map Prod.fst).nodup_iff]
    simp only [hperm.mem_iff]
  | items _ hperm =>
    rw [holds_arr, holds_arr]
    simp only [hperm.mem_iff]
  | member k before after _ ih =>
    rw [holds_obj, holds_obj]
    simp only [List.map_append, List.map_cons, List.forall_mem_append, List.forall_mem_cons, ih]
  | item before after _ ih =>
    rw [holds_arr, holds_arr]
    simp only [List.forall_mem_append, List.forall_mem_cons, ih]

/-- A value is the same as itself with its members sorted. -/
theorem sameMembers_norm (v : Json) : SameMembers v v.norm := by
  induction v using Json.induct with
  | null => exact .refl _
  | bool b => exact .refl _
  | num n => exact .refl _
  | str s => exact .refl _
  | arr items ih =>
    rw [norm, normItems_eq]
    exact reordered_map_arr ih
  | obj fields ih =>
    rw [norm, normFields_eq]
    refine .trans (reordered_map_obj (f := fun _ v => v.norm) ih) ?_
    exact .members (SortOn.perm _ _).symm

/-! ## Canonical text -/

/-- The text of an object depends on its members only. -/
theorem render_obj_perm {fs gs : List (String × Json)} (h : fs.Perm gs)
    (hnd : (fs.map Prod.fst).Nodup) : (Json.obj fs).render = (Json.obj gs).render := by
  have hperm : (renderFields fs).Perm (renderFields gs) := by
    rw [renderFields_eq, renderFields_eq]
    exact h.map _
  have hnames : ((renderFields fs).map Prod.fst).Nodup := by
    rw [renderFields_eq, List.map_map]
    exact hnd
  have hsort : sortOn (fun q => utf16 q.1) (renderFields fs) =
      sortOn (fun q => utf16 q.1) (renderFields gs) :=
    SortOn.eq_of_perm (fun q : String × List Char => utf16 q.1) hperm fun x hx y hy hxy =>
      List.inj_on_of_nodup_map hnames hx hy (PyValue.utf16_injective hxy)
  rw [render, render, hsort]

theorem render_eq_of_sameMembers {v w : Json} (h : SameMembers v w) (hv : v.Holds fun _ => True) :
    v.render = w.render := by
  induction h with
  | refl v => rfl
  | symm hwv ih => exact (ih (hwv.holds_iff.mpr hv)).symm
  | trans huv _ ih₁ ih₂ => exact (ih₁ hv).trans (ih₂ (huv.holds_iff.mp hv))
  | members hperm => exact render_obj_perm hperm (holds_obj.mp hv).1
  | items harrays _ => exact harrays.elim
  | member k before after _ ih =>
    have hrender := ih ((holds_obj.mp hv).2 (k, _) (List.mem_append_right _ List.mem_cons_self))
    rw [render, render, renderFields_eq, renderFields_eq, List.map_append, List.map_append,
      List.map_cons, List.map_cons, hrender]
  | item before after _ ih =>
    have hrender := ih (holds_arr.mp hv _ (List.mem_append_right _ List.mem_cons_self))
    rw [render, render, renderItems_eq, renderItems_eq, List.map_append, List.map_append,
      List.map_cons, List.map_cons, hrender]

/-- **Values share their canonical text exactly when they agree up to the order of members.** -/
theorem render_eq_iff {v w : Json} (hv : v.Holds Readable) (hw : w.Holds Readable)
    (hd : v.Holds fun _ => True) : v.render = w.render ↔ SameMembers v w := by
  constructor
  · intro h
    have hnorm := norm_eq_of_render_eq hv hw h
    have hw' : SameMembers w v.norm := hnorm ▸ sameMembers_norm w
    exact .trans (sameMembers_norm v) (.symm hw')
  · exact fun h => render_eq_of_sameMembers h hd

end Json
