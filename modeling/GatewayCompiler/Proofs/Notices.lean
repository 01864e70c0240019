import GatewayCompiler.Report
import Mathlib.Data.List.Forall2

/-!
# Notices by place

A scan passes places one after another and gives notice of some of them.  What it gives notice of is
told by a kind of place and by what is said at a place of this kind: its notices go through the
places of the kind in their order, one for each and none besides.
-/

namespace GatewayCompiler.Notice

variable {ι α : Type} {before : ι → ι → Prop} {isPlace : ι → Prop} {tells : ι → Notice → Prop}
  {notices : List Notice}

/-- Notices of the places of a kind, one of each, in the order of the places. -/
def GoThrough (before : ι → ι → Prop) (isPlace : ι → Prop) (tells : ι → Notice → Prop)
    (notices : List Notice) : Prop :=
  ∃ places : List ι, places.Pairwise before ∧ (∀ place, place ∈ places ↔ isPlace place) ∧
    List.Forall₂ tells places notices

theorem forall₂_filterMap {place : α → ι} {note? : α → Option Notice} {items : List α}
    (h : ∀ item ∈ items, ∀ notice, note? item = some notice → tells (place item) notice) :
    List.Forall₂ tells ((items.filter fun item => (note? item).isSome).map place)
      (items.filterMap note?) := by
  induction items with
  | nil => exact .nil
  | cons item items ih =>
      obtain ⟨hitem, hitems⟩ := List.forall_mem_cons.1 h
      cases hnote : note? item with
      | none =>
          rw [List.filter_cons_of_neg (by simp [hnote]), List.filterMap_cons_none hnote]
          exact ih hitems
      | some notice =>
          rw [List.filter_cons_of_pos (by simp [hnote]), List.filterMap_cons_some hnote]
          exact .cons (hitem notice hnote) (ih hitems)

/-- A scan that may give notice of each item in turn goes through the places of the items of which
it does. -/
theorem goThrough_filterMap (place : α → ι) {note? : α → Option Notice} {items : List α}
    (hplaces : (items.map place).Pairwise before)
    (hisPlace : ∀ here, isPlace here ↔
      ∃ item ∈ items, (∃ notice, note? item = some notice) ∧ place item = here)
    (htells : ∀ item ∈ items, ∀ notice, note? item = some notice → tells (place item) notice) :
    GoThrough before isPlace tells (items.filterMap note?) := by
  refine ⟨_, ?_, ?_, forall₂_filterMap htells⟩
  · exact hplaces.sublist (List.filter_sublist.map place)
  · intro here
    simp only [hisPlace, List.mem_map, List.mem_filter, Option.isSome_iff_exists, and_assoc]

/-- There is nothing to give notice of exactly where there are no places of the kind. -/
theorem GoThrough.eq_nil_iff (h : GoThrough before isPlace tells notices) :
    notices = [] ↔ ∀ place, ¬ isPlace place := by
  obtain ⟨places, -, hmem, htells⟩ := h
  simp only [← hmem, ← List.eq_nil_iff_forall_not_mem, ← List.length_eq_zero_iff, htells.length_eq]

end GatewayCompiler.Notice
