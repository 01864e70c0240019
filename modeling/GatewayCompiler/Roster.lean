import GatewayCompiler.Table

/-!
# Rosters

A roster lists items in the order they were added and holds at most one item of a name: the first.
Beside the list it keeps an index of the names, in which it looks before it adds.
-/

namespace GatewayCompiler

/-- Items in the order they were added, and for each name the one place where it stands. -/
structure Roster (α : Type) (nameOf : α → String) where
  items : List α
  places : Table String Nat
  indexed : ∀ name place, places.get? name = some place ↔ (items.map nameOf)[place]? = some name

namespace Roster

variable {α : Type} {nameOf : α → String}

def empty : Roster α nameOf where
  items := []
  places := ∅
  indexed _ _ := ⟨(nomatch ·), (nomatch ·)⟩

instance : EmptyCollection (Roster α nameOf) := ⟨empty⟩

def names (roster : Roster α nameOf) : List String :=
  roster.items.map nameOf

def contains (roster : Roster α nameOf) (name : String) : Bool :=
  roster.places.contains name

def size (roster : Roster α nameOf) : Nat :=
  roster.items.length

/-- A name has one place in the index, so it stands at one place of the list. -/
theorem distinct (roster : Roster α nameOf) : (roster.items.map nameOf).Nodup := by
  apply List.pairwise_iff_getElem.2
  intro first second hfirst hsecond hlt hsame
  have hplace := (roster.indexed _ first).2 (List.getElem?_eq_getElem hfirst)
  have hother := (roster.indexed _ second).2 (List.getElem?_eq_getElem hsecond)
  rw [hsame, hother, Option.some.injEq] at hplace
  exact Nat.ne_of_gt hlt hplace

@[simp]
theorem contains_iff {roster : Roster α nameOf} {name : String} :
    roster.contains name = true ↔ name ∈ roster.names := by
  rw [contains, Table.contains, Option.isSome_iff_exists, names, List.mem_iff_getElem?]
  exact exists_congr (roster.indexed name)

/-- The index after an item of a new name. -/
theorem indexed_append {roster : Roster α nameOf} {item : α}
    (h : roster.contains (nameOf item) = false) (name : String) (place : Nat) :
    (roster.places.insert (nameOf item) roster.items.length).get? name = some place ↔
      ((roster.items ++ [item]).map nameOf)[place]? = some name := by
  have hnew : nameOf item ∉ roster.items.map nameOf := by
    intro hmem
    rw [contains_iff.2 hmem] at h
    cases h
  rw [List.map_append, List.getElem?_append, List.length_map, List.map_singleton]
  by_cases hname : nameOf item = name
  · rw [← hname, Table.get?_insert_self]
    split
    · rename_i hlt
      constructor
      · rintro ⟨⟩
        exact absurd hlt (Nat.lt_irrefl _)
      · intro hold
        exact absurd (List.mem_of_getElem? hold) hnew
    · rename_i hge
      simp only [Option.some.injEq, List.getElem?_singleton]
      split <;> simp <;> omega
  · rw [Table.get?_insert_of_ne hname, roster.indexed]
    split
    · rfl
    · rename_i hge
      rw [List.getElem?_eq_none (by simpa using hge), List.getElem?_singleton]
      split <;> simp [hname]

/-- Adds an item unless there is one of its name, and says whether it was added. -/
def offer (roster : Roster α nameOf) (item : α) : Bool × Roster α nameOf :=
  if h : roster.contains (nameOf item) then (false, roster)
  else (true, ⟨roster.items ++ [item], roster.places.insert (nameOf item) roster.items.length,
    indexed_append (Bool.eq_false_iff.2 h)⟩)

/-- Adds an item unless there is one of its name. -/
def add (roster : Roster α nameOf) (item : α) : Roster α nameOf :=
  (roster.offer item).2

theorem offer_of_contains {roster : Roster α nameOf} {item : α}
    (h : roster.contains (nameOf item) = true) : roster.offer item = (false, roster) :=
  dif_pos h

theorem add_of_contains {roster : Roster α nameOf} {item : α}
    (h : roster.contains (nameOf item) = true) : roster.add item = roster := by
  rw [add, offer_of_contains h]

/-- The answer to an item is whether there was none of its name. -/
theorem fst_offer (roster : Roster α nameOf) (item : α) :
    (roster.offer item).1 = !roster.contains (nameOf item) := by
  rw [offer]
  split
  · rename_i h
    rw [h]
    rfl
  · rename_i h
    rw [Bool.eq_false_iff.2 h]
    rfl

theorem items_add_of_not_contains {roster : Roster α nameOf} {item : α}
    (h : roster.contains (nameOf item) = false) :
    (roster.add item).items = roster.items ++ [item] := by
  have hnot : ¬ roster.contains (nameOf item) = true := by simp [h]
  rw [add, offer, dif_neg hnot]

theorem mem_items_add {roster : Roster α nameOf} {item other : α}
    (h : other ∈ (roster.add item).items) : other ∈ roster.items ∨ other = item := by
  cases hcontains : roster.contains (nameOf item) with
  | true =>
      rw [add_of_contains hcontains] at h
      exact .inl h
  | false =>
      rw [items_add_of_not_contains hcontains] at h
      simpa using h

/-- After an item is added there is one of its name, whether it is this item or an earlier one. -/
theorem mem_names_add {roster : Roster α nameOf} {item : α} {name : String} :
    name ∈ (roster.add item).names ↔ name ∈ roster.names ∨ name = nameOf item := by
  cases hcontains : roster.contains (nameOf item) with
  | true =>
      rw [add_of_contains hcontains]
      constructor
      · exact .inl
      · rintro (h | rfl)
        · exact h
        · exact contains_iff.1 hcontains
  | false =>
      rw [names, items_add_of_not_contains hcontains]
      simp [names]

end Roster

end GatewayCompiler
