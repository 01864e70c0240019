import GatewayCompiler.Roster
import Mathlib.Data.List.Forall2
import Mathlib.Data.List.Induction
import Mathlib.Data.List.Infix
import Mathlib.Data.List.Nodup

/-!
# Values in the order in which they are first seen

`List.eraseDups` keeps the first occurrence of every value.  Seen from the end of the list, a value
is new exactly when it has not occurred before, which is how the loops of this library meet it.  A
roster filled from a list does the same by name.
-/

namespace GatewayCompiler

/-- Elements that are listed with their places stand in the order of the places. -/
theorem pairwise_snd_zipIdx {α : Type} (xs : List α) : xs.zipIdx.Pairwise fun a b => a.2 < b.2 := by
  rw [← List.pairwise_map (f := Prod.snd) (R := (· < ·)), List.zipIdx_map_snd]
  exact List.pairwise_lt_range'

section EraseDups

variable {α : Type} [BEq α] [LawfulBEq α]

theorem eraseDups_concat (xs : List α) (x : α) :
    (xs ++ [x]).eraseDups = if x ∈ xs then xs.eraseDups else xs.eraseDups ++ [x] := by
  rw [List.eraseDups_append]
  have hsingle : [x].eraseDups = [x] := by
    rw [List.eraseDups_cons, List.filter_nil, List.eraseDups_nil]
  by_cases hmem : x ∈ xs <;> simp [List.removeAll, hmem, hsingle]

theorem nodup_eraseDups (xs : List α) : xs.eraseDups.Nodup := by
  induction xs using List.reverseRecOn with
  | nil => simp
  | append_singleton xs x ih =>
      rw [eraseDups_concat]
      split_ifs with hmem
      · exact ih
      · rw [List.nodup_append]
        refine ⟨ih, List.nodup_singleton x, fun a ha b hb => ?_⟩
        rintro rfl
        rw [List.mem_singleton] at hb
        rw [List.mem_eraseDups, hb] at ha
        exact hmem ha

end EraseDups

namespace Roster

variable {α : Type} {nameOf : α → String} {items : List α}

/-- The first item of each name. -/
def ofList (items : List α) : Roster α nameOf :=
  items.foldl add ∅

@[simp]
theorem ofList_concat (items : List α) (item : α) :
    (ofList (items ++ [item]) : Roster α nameOf) = (ofList items).add item := by
  rw [ofList, List.foldl_append]
  rfl

theorem mem_of_mem_items_ofList {item : α} (h : item ∈ (ofList items : Roster α nameOf).items) :
    item ∈ items := by
  induction items using List.reverseRecOn with
  | nil => exact h
  | append_singleton items last ih =>
      rw [ofList_concat] at h
      rw [List.mem_append, List.mem_singleton]
      exact (mem_items_add h).imp_left ih

theorem mem_names_ofList {name : String} :
    name ∈ (ofList items : Roster α nameOf).names ↔ name ∈ items.map nameOf := by
  induction items using List.reverseRecOn with
  | nil => rfl
  | append_singleton items last ih =>
      rw [ofList_concat, mem_names_add, ih, List.map_append, List.mem_append, List.map_singleton,
        List.mem_singleton]

theorem contains_ofList_eq_false_iff {name : String} :
    (ofList items : Roster α nameOf).contains name = false ↔ name ∉ items.map nameOf := by
  rw [← Bool.not_eq_true, contains_iff, mem_names_ofList]

theorem items_add_of_notMem {roster : Roster α nameOf} {item : α}
    (h : nameOf item ∉ roster.names) : (roster.add item).items = roster.items ++ [item] := by
  apply items_add_of_not_contains
  rw [← Bool.not_eq_true, contains_iff]
  exact h

theorem items_prefix_add (roster : Roster α nameOf) (item : α) :
    roster.items <+: (roster.add item).items := by
  cases hcontains : roster.contains (nameOf item) with
  | true => rw [add_of_contains hcontains]
  | false =>
      rw [items_add_of_not_contains hcontains]
      exact List.prefix_append _ _

/-- Items that come later take no place from those before. -/
theorem items_prefix_ofList {more : List α} (h : items <+: more) :
    (ofList items : Roster α nameOf).items <+: (ofList more : Roster α nameOf).items := by
  obtain ⟨rest, rfl⟩ := h
  induction rest using List.reverseRecOn with
  | nil => rw [List.append_nil]
  | append_singleton rest last ih =>
      rw [← List.append_assoc, ofList_concat]
      exact ih.trans (items_prefix_add _ last)

/-- For each name, in the order in which the names are first seen, the first item of that name. -/
theorem items_ofList (items : List α) : (ofList items : Roster α nameOf).items =
    (items.map nameOf).eraseDups.filterMap fun name => items.find? (nameOf · == name) := by
  induction items using List.reverseRecOn with
  | nil => rfl
  | append_singleton items last ih =>
      have hfound : ∀ name ∈ (items.map nameOf).eraseDups,
          (items ++ [last]).find? (nameOf · == name) = items.find? (nameOf · == name) := by
        intro name hname
        rw [List.mem_eraseDups] at hname
        obtain ⟨item, hitem, rfl⟩ := List.mem_map.1 hname
        have hsome : (items.find? (nameOf · == nameOf item)).isSome = true :=
          List.find?_isSome.2 ⟨item, hitem, beq_self_eq_true _⟩
        rw [List.find?_append, Option.or_of_isSome hsome]
      have hkept : (items.map nameOf).eraseDups.filterMap
          (fun name => (items ++ [last]).find? (nameOf · == name)) =
            (ofList items : Roster α nameOf).items := by
        rw [ih]
        exact List.filterMap_congr hfound
      rw [ofList_concat, List.map_append, List.map_singleton, eraseDups_concat]
      split_ifs with hmem
      · rw [hkept, add_of_contains (contains_iff.2 (mem_names_ofList.2 hmem))]
      · have hnew : (ofList items : Roster α nameOf).contains (nameOf last) = false :=
          contains_ofList_eq_false_iff.2 hmem
        have hnone : items.find? (nameOf · == nameOf last) = none := by
          rw [List.find?_eq_none]
          intro item hitem heq
          exact hmem (List.mem_map.2 ⟨item, hitem, beq_iff_eq.1 heq⟩)
        rw [List.filterMap_append, hkept, items_add_of_not_contains hnew]
        simp [List.find?_append, hnone]

/-- Items with different names are all kept. -/
theorem items_ofList_of_nodup (h : (items.map nameOf).Nodup) :
    (ofList items : Roster α nameOf).items = items := by
  induction items using List.reverseRecOn with
  | nil => rfl
  | append_singleton items last ih =>
      rw [List.map_append, List.map_singleton, List.nodup_append] at h
      obtain ⟨hitems, _, hdiffer⟩ := h
      have hnew : (ofList items : Roster α nameOf).contains (nameOf last) = false :=
        contains_ofList_eq_false_iff.2 fun hmem =>
          hdiffer _ hmem _ (List.mem_singleton_self _) rfl
      rw [ofList_concat, items_add_of_not_contains hnew, ih hitems]

section Paired

variable {related : α → α → Prop} {roster roster' : Roster α nameOf}

theorem names_eq_of_forall₂ (hname : ∀ a b, related a b → nameOf a = nameOf b)
    (h : List.Forall₂ related roster.items roster'.items) : roster.names = roster'.names := by
  rw [names, names, ← List.forall₂_eq_eq_eq, List.forall₂_map_left_iff, List.forall₂_map_right_iff]
  exact h.imp hname

/-- Rosters that are filled with items of the same names stay paired. -/
theorem forall₂_add (hname : ∀ a b, related a b → nameOf a = nameOf b)
    (h : List.Forall₂ related roster.items roster'.items) {item item' : α}
    (hitem : related item item') :
    List.Forall₂ related (roster.add item).items (roster'.add item').items := by
  have hsame : roster.contains (nameOf item) = roster'.contains (nameOf item') := by
    rw [Bool.eq_iff_iff, contains_iff, contains_iff, names_eq_of_forall₂ hname h,
      hname item item' hitem]
  cases hcontains : roster'.contains (nameOf item') with
  | true =>
      rw [add_of_contains hcontains, add_of_contains (hsame.trans hcontains)]
      exact h
  | false =>
      rw [items_add_of_not_contains hcontains, items_add_of_not_contains (hsame.trans hcontains)]
      exact List.rel_append h (.cons hitem .nil)

end Paired

/-- An item is found by its name. -/
theorem find?_items_of_mem {roster : Roster α nameOf} {item : α} (h : item ∈ roster.items) :
    roster.items.find? (fun other => nameOf other == nameOf item) = some item := by
  cases hfind : roster.items.find? (fun other => nameOf other == nameOf item) with
  | none =>
      rw [List.find?_eq_none] at hfind
      exact absurd (beq_self_eq_true (nameOf item)) (hfind item h)
  | some other =>
      have hname : nameOf other = nameOf item := by
        simpa using List.find?_some hfind
      have hother : other ∈ roster.items := List.mem_of_find?_eq_some hfind
      rw [List.inj_on_of_nodup_map roster.distinct hother h hname]

end Roster

end GatewayCompiler
