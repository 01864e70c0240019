import GatewayCompiler.Table

/-!
# Contents of tables

A table is known by what is found under each key, whatever the way it was filled.  Filled from
entries with different keys it has just these entries, in the order of their keys, and filled from
the entries of a table it is that table again.
-/

namespace GatewayCompiler.Table

variable {κ α : Type} [Ord κ] [Std.LawfulEqOrd κ]

theorem perm_insertEntry {key : κ} {value : α} {entries : List (κ × α)}
    (h : key ∉ entries.map (·.1)) :
    (insertEntry key value entries).Perm ((key, value) :: entries) := by
  induction entries with
  | nil => exact .refl _
  | cons head rest ih =>
      rw [List.map_cons, List.mem_cons, not_or] at h
      simp only [insertEntry]
      split
      · exact .refl _
      · rename_i heq
        exact absurd (Std.compare_eq_iff_eq.1 heq) h.1
      · exact ((ih h.2).cons head).trans (.swap ..)

omit [Std.LawfulEqOrd κ] in
/-- An entry that is not looked for is put between the others and leaves them as they were. -/
theorem filter_insertEntry {key : κ} {value : α} {entries : List (κ × α)} {p : κ × α → Bool}
    (hnew : ∀ entry ∈ entries, compare key entry.1 ≠ .eq) (hvalue : p (key, value) = false) :
    (insertEntry key value entries).filter p = entries.filter p := by
  induction entries with
  | nil => simp [insertEntry, hvalue]
  | cons head rest ih =>
      have hrest := ih fun entry hentry => hnew entry (List.mem_cons_of_mem _ hentry)
      simp only [insertEntry]
      split
      · rw [List.filter_cons_of_neg (by simp [hvalue])]
      · rename_i heq
        exact absurd heq (hnew head List.mem_cons_self)
      · rw [List.filter_cons, List.filter_cons, hrest]

variable [Std.TransOrd κ]

omit [Std.LawfulEqOrd κ] in
/-- An entry takes the place of the one of its key, or a place between the others. -/
theorem length_insertEntry {key : κ} {value : α} {entries : List (κ × α)}
    (h : entries.Pairwise fun a b => compare a.1 b.1 = .lt) :
    (insertEntry key value entries).length =
      if (entries.find? fun entry => compare entry.1 key == .eq).isSome then entries.length
      else entries.length + 1 := by
  induction entries with
  | nil => rfl
  | cons head rest ih =>
      obtain ⟨hhead, hrest⟩ := List.pairwise_cons.1 h
      simp only [insertEntry]
      split
      · rename_i hlt
        have hnone : (head :: rest).find? (fun entry => compare entry.1 key == .eq) = none := by
          rw [List.find?_eq_none]
          intro entry hentry
          have hafter : compare key entry.1 = .lt := by
            obtain rfl | hentry := List.mem_cons.1 hentry
            · exact hlt
            · exact Std.TransCmp.lt_trans hlt (hhead entry hentry)
          simp [Std.OrientedCmp.gt_of_lt hafter]
        rw [hnone]
        rfl
      · rename_i heq
        have hsame : (compare head.1 key == .eq) = true := by
          rw [beq_iff_eq]
          exact Std.OrientedCmp.eq_symm heq
        rw [List.find?_cons, hsame]
        rfl
      · rename_i hgt
        have hbefore : (compare head.1 key == .eq) = false := by
          rw [Std.OrientedCmp.lt_of_gt hgt]
          rfl
        rw [List.find?_cons, hbefore, List.length_cons, ih hrest]
        split <;> rfl

omit [Std.LawfulEqOrd κ] in
theorem size_insert (table : Table κ α) (key : κ) (value : α) : (table.insert key value).size =
    if (table.get? key).isSome then table.size else table.size + 1 := by
  rw [get?, Option.isSome_map]
  exact length_insertEntry table.ascending

theorem perm_foldl_insert (entries : List (κ × α)) (table : Table κ α)
    (h : ((table.entries ++ entries).map (·.1)).Nodup) :
    (entries.foldl (fun table (key, value) => table.insert key value) table).entries.Perm
      (table.entries ++ entries) := by
  induction entries generalizing table with
  | nil => simp
  | cons entry entries ih =>
      have hfresh : entry.1 ∉ table.entries.map (·.1) := by
        intro hmem
        rw [List.map_append, List.map_cons, List.nodup_append] at h
        exact h.2.2 _ hmem _ List.mem_cons_self rfl
      have hmiddle : ((table.insert entry.1 entry.2).entries ++ entries).Perm
          (table.entries ++ entry :: entries) :=
        ((perm_insertEntry hfresh).append_right entries).trans List.perm_middle.symm
      exact (ih _ ((hmiddle.map _).nodup_iff.2 h)).trans hmiddle

theorem perm_ofList {entries : List (κ × α)} (h : (entries.map (·.1)).Nodup) :
    (ofList entries).entries.Perm entries :=
  perm_foldl_insert entries empty h

omit [Std.TransOrd κ] in
theorem nodup_keys (table : Table κ α) : table.keys.Nodup := by
  apply List.pairwise_map.2
  apply table.ascending.imp
  intro a b hlt heq
  rw [heq, Std.compare_self] at hlt
  cases hlt

omit [Std.LawfulEqOrd κ] in
/-- The order of its entries is no choice of a table. -/
theorem eq_of_perm {a b : Table κ α} (h : a.entries.Perm b.entries) : a = b := by
  apply ext
  apply h.eq_of_pairwise _ a.ascending b.ascending
  intro first second _ _ hlt hgt
  rw [Std.OrientedCmp.gt_of_lt hlt] at hgt
  cases hgt

theorem ofList_entries (table : Table κ α) : ofList table.entries = table :=
  eq_of_perm (perm_ofList table.nodup_keys)

theorem mem_entries_iff {table : Table κ α} {key : κ} {value : α} :
    (key, value) ∈ table.entries ↔ table.get? key = some value := by
  constructor
  · exact get?_of_mem
  · intro h
    obtain ⟨entry, hentry, rfl⟩ := Option.map_eq_some_iff.1 h
    have hkey : entry.1 = key := by
      simpa using List.find?_some hentry
    rw [← hkey]
    exact List.mem_of_find?_eq_some hentry

/-- Tables in which the same is found under every key are the same. -/
theorem ext_get? {a b : Table κ α} (h : ∀ key, a.get? key = b.get? key) : a = b := by
  have hnodup : ∀ table : Table κ α, table.entries.Nodup := by
    intro table
    apply (List.pairwise_map.1 table.nodup_keys).imp
    intro first second hkeys hsame
    exact hkeys (congrArg Prod.fst hsame)
  apply eq_of_perm
  apply (List.perm_ext_iff_of_nodup (hnodup a) (hnodup b)).2
  rintro ⟨key, value⟩
  rw [mem_entries_iff, mem_entries_iff, h]

end GatewayCompiler.Table
