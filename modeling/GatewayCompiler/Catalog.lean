import GatewayCompiler.Table

/-!
# Catalogs

A catalog is a table of objects that know their own keys: every object stands under its key and under
no other.  What is found under a key therefore has that key.
-/

namespace GatewayCompiler

/-- Objects in strictly ascending order of their own keys. -/
structure Catalog {κ α : Type} [Ord κ] (keyOf : α → κ) extends Table κ α where
  keyed : ∀ entry ∈ entries, entry.1 = keyOf entry.2

namespace Catalog

variable {κ α : Type} [Ord κ] {keyOf : α → κ}

def empty : Catalog keyOf := ⟨∅, fun _ h => nomatch h⟩

instance : EmptyCollection (Catalog keyOf) := ⟨empty⟩

/-- Puts the object under its key, in place of an earlier one. -/
def put [Std.TransOrd κ] (catalog : Catalog keyOf) (object : α) : Catalog keyOf where
  toTable := catalog.insert (keyOf object) object
  keyed entry h := by
    rcases Table.fst_of_mem_insertEntry h with rfl | h
    · rfl
    · exact catalog.keyed entry h

@[ext]
theorem ext {a b : Catalog keyOf} (h : a.toTable = b.toTable) : a = b := by
  cases a; cases b; simp_all

theorem key_eq_of_get? [Std.LawfulEqOrd κ] {catalog : Catalog keyOf} {key : κ} {object : α}
    (h : catalog.get? key = some object) : keyOf object = key := by
  obtain ⟨entry, hentry, rfl⟩ := Option.map_eq_some_iff.1 h
  have hkey := List.find?_some hentry
  rw [beq_iff_eq, Std.compare_eq_iff_eq] at hkey
  rw [← catalog.keyed entry (List.mem_of_find?_eq_some hentry), hkey]

/-- The objects of a catalog are those that are found under their keys. -/
theorem mem_values_iff [Std.TransOrd κ] {catalog : Catalog keyOf} {object : α} :
    object ∈ catalog.values ↔ catalog.get? (keyOf object) = some object := by
  constructor
  · intro h
    obtain ⟨entry, hentry, rfl⟩ := List.mem_map.1 h
    rw [← catalog.keyed entry hentry]
    exact Table.get?_of_mem hentry
  · intro h
    obtain ⟨entry, hentry, rfl⟩ := Option.map_eq_some_iff.1 h
    exact List.mem_map_of_mem (List.mem_of_find?_eq_some hentry)

/-- The objects are listed in strictly ascending order of their keys. -/
theorem pairwise_values (catalog : Catalog keyOf) :
    catalog.values.Pairwise fun a b => compare (keyOf a) (keyOf b) = .lt := by
  rw [Table.values, List.pairwise_map]
  refine List.Pairwise.imp_of_mem (fun {a b} ha hb hlt => ?_) catalog.ascending
  rw [← catalog.keyed a ha, ← catalog.keyed b hb]
  exact hlt

end Catalog

end GatewayCompiler
