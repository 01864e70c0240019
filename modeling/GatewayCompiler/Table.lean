/-!
# Tables in key order

A table holds at most one value under a key and lists its entries in ascending order of key.  The
order is part of the type, so whatever is built from a table does not depend on how it was filled.
-/

namespace GatewayCompiler

/-- Entries in strictly ascending order of key. -/
structure Table (κ α : Type) [Ord κ] where
  entries : List (κ × α)
  ascending : entries.Pairwise fun a b => compare a.1 b.1 = .lt

namespace Table

variable {κ α : Type} [Ord κ]

def insertEntry (key : κ) (value : α) : List (κ × α) → List (κ × α)
  | [] => [(key, value)]
  | entry :: rest =>
    match compare key entry.1 with
    | .lt => (key, value) :: entry :: rest
    | .eq => (key, value) :: rest
    | .gt => entry :: insertEntry key value rest

theorem fst_of_mem_insertEntry {key : κ} {value : α} {entries : List (κ × α)} {entry : κ × α}
    (h : entry ∈ insertEntry key value entries) : entry = (key, value) ∨ entry ∈ entries := by
  induction entries with
  | nil => simpa [insertEntry] using h
  | cons head rest ih =>
    simp only [insertEntry] at h
    split at h
    · simpa using h
    · rcases List.mem_cons.1 h with h | h
      · exact .inl h
      · exact .inr (List.mem_cons_of_mem _ h)
    · rcases List.mem_cons.1 h with h | h
      · exact .inr (by simp [h])
      · exact (ih h).imp id (List.mem_cons_of_mem _)

theorem pairwise_insertEntry [Std.TransOrd κ] {key : κ} {value : α} {entries : List (κ × α)}
    (h : entries.Pairwise fun a b => compare a.1 b.1 = .lt) :
    (insertEntry key value entries).Pairwise fun a b => compare a.1 b.1 = .lt := by
  induction entries with
  | nil => simp [insertEntry]
  | cons head rest ih =>
    have hhead := (List.pairwise_cons.1 h).1
    have hrest := (List.pairwise_cons.1 h).2
    simp only [insertEntry]
    split
    · rename_i hlt
      refine List.pairwise_cons.2 ⟨fun entry hmem => ?_, h⟩
      rcases List.mem_cons.1 hmem with rfl | hmem
      · exact hlt
      · exact Std.TransCmp.lt_trans hlt (hhead entry hmem)
    · rename_i heq
      exact List.pairwise_cons.2
        ⟨fun entry hmem => Std.TransCmp.lt_of_eq_of_lt heq (hhead entry hmem), hrest⟩
    · rename_i hgt
      refine List.pairwise_cons.2 ⟨fun entry hmem => ?_, ih hrest⟩
      rcases fst_of_mem_insertEntry hmem with rfl | hmem
      · exact Std.OrientedCmp.lt_of_gt hgt
      · exact hhead entry hmem

def empty : Table κ α := ⟨[], .nil⟩

instance : EmptyCollection (Table κ α) := ⟨empty⟩

instance : Inhabited (Table κ α) := ⟨empty⟩

/-- Puts the value under the key, in place of an earlier one. -/
def insert [Std.TransOrd κ] (table : Table κ α) (key : κ) (value : α) : Table κ α :=
  ⟨insertEntry key value table.entries, pairwise_insertEntry table.ascending⟩

/-- The table filled in this order, a later value replacing an earlier one. -/
def ofList [Std.TransOrd κ] (entries : List (κ × α)) : Table κ α :=
  entries.foldl (fun table (key, value) => table.insert key value) empty

def get? (table : Table κ α) (key : κ) : Option α :=
  (table.entries.find? fun entry => compare entry.1 key == .eq).map (·.2)

theorem find?_insertEntry_of_ne [Std.LawfulEqOrd κ] {key other : κ} {value : α}
    {entries : List (κ × α)} (h : key ≠ other) :
    (insertEntry key value entries).find? (fun entry => compare entry.1 other == .eq) =
      entries.find? fun entry => compare entry.1 other == .eq := by
  have hnew : (compare key other == .eq) = false := by
    rw [beq_eq_false_iff_ne, ne_eq, Std.compare_eq_iff_eq]
    exact h
  induction entries with
  | nil => simp [insertEntry, hnew]
  | cons head rest ih =>
    simp only [insertEntry]
    split
    · rw [List.find?_cons, hnew]
    · rename_i heq
      rw [Std.compare_eq_iff_eq] at heq
      rw [List.find?_cons, List.find?_cons, ← heq, hnew]
    · rw [List.find?_cons, List.find?_cons, ih]

theorem find?_insertEntry_self [Std.TransOrd κ] (key : κ) (value : α) (entries : List (κ × α)) :
    (insertEntry key value entries).find? (fun entry => compare entry.1 key == .eq) =
      some (key, value) := by
  have hself : (compare key key == .eq) = true := by simp
  induction entries with
  | nil => simp [insertEntry]
  | cons head rest ih =>
    simp only [insertEntry]
    split
    · rw [List.find?_cons, hself]
    · rw [List.find?_cons, hself]
    · rename_i hgt
      have hhead : (compare head.1 key == .eq) = false := by
        rw [Std.OrientedCmp.lt_of_gt hgt]
        rfl
      rw [List.find?_cons, hhead]
      exact ih

@[simp]
theorem get?_insert_self [Std.TransOrd κ] (table : Table κ α) (key : κ) (value : α) :
    (table.insert key value).get? key = some value := by
  rw [get?, insert, find?_insertEntry_self]
  rfl

theorem insertEntry_ne_nil (key : κ) (value : α) (entries : List (κ × α)) :
    insertEntry key value entries ≠ [] := by
  cases entries with
  | nil => exact List.cons_ne_nil _ _
  | cons head rest =>
    rw [insertEntry]
    split <;> exact List.cons_ne_nil _ _

/-- Putting a value under a key leaves the other keys alone. -/
theorem get?_insert_of_ne [Std.TransOrd κ] [Std.LawfulEqOrd κ] {table : Table κ α} {key other : κ}
    {value : α} (h : key ≠ other) : (table.insert key value).get? other = table.get? other := by
  rw [get?, insert, find?_insertEntry_of_ne h, get?]

/-- A value that is listed under a key is found under it. -/
theorem get?_of_mem [Std.TransOrd κ] {table : Table κ α} {key : κ} {value : α}
    (h : (key, value) ∈ table.entries) : table.get? key = some value := by
  obtain ⟨entries, ascending⟩ := table
  rw [get?]
  induction entries with
  | nil => cases h
  | cons head rest ih =>
    obtain ⟨hhead, hrest⟩ := List.pairwise_cons.1 ascending
    obtain rfl | h := List.mem_cons.1 h
    · rw [List.find?_cons_of_pos (by simp)]
      rfl
    · have hdiffers : (compare head.1 key == .eq) = false := by
        rw [hhead _ h]
        rfl
      rw [List.find?_cons_of_neg (by simp [hdiffers])]
      exact ih hrest h

def contains (table : Table κ α) (key : κ) : Bool :=
  (table.get? key).isSome

def keys (table : Table κ α) : List κ :=
  table.entries.map (·.1)

def values (table : Table κ α) : List α :=
  table.entries.map (·.2)

def size (table : Table κ α) : Nat :=
  table.entries.length

def isEmpty (table : Table κ α) : Bool :=
  table.entries.isEmpty

@[simp]
theorem isEmpty_insert [Std.TransOrd κ] (table : Table κ α) (key : κ) (value : α) :
    (table.insert key value).isEmpty = false := by
  rw [isEmpty, insert, List.isEmpty_eq_false_iff]
  exact insertEntry_ne_nil key value table.entries

@[ext]
theorem ext {a b : Table κ α} (h : a.entries = b.entries) : a = b := by
  cases a; cases b; simp_all

instance [DecidableEq κ] [DecidableEq α] : DecidableEq (Table κ α) := fun a b =>
  if h : a.entries = b.entries then isTrue (ext h) else isFalse fun hab => h (hab ▸ rfl)

instance [Repr κ] [Repr α] : Repr (Table κ α) := ⟨fun table n => reprPrec table.entries n⟩

end Table

end GatewayCompiler
