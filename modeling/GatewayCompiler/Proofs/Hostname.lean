import GatewayCompiler.Hostname
import Mathlib.Data.String.Basic

/-!
# Order of shared hostnames

The hosts that a listener and a route share are listed in strictly ascending order, however the
route lists its own, so two routes that share the same hosts with a listener have the same list.
-/

namespace GatewayCompiler.Hostname

theorem mem_insertName {name other : String} {names : List String} :
    other ∈ insertName name names ↔ other = name ∨ other ∈ names := by
  induction names with
  | nil => rw [insertName, List.mem_singleton, List.mem_nil_iff, or_false]
  | cons head rest ih =>
      rw [insertName]
      split_ifs with hlt heq
      · exact List.mem_cons
      · rw [← heq, List.mem_cons]
        exact ⟨.inr, fun h => h.elim .inl id⟩
      · rw [List.mem_cons, ih, List.mem_cons]
        exact or_left_comm

theorem pairwise_insertName {name : String} {names : List String}
    (h : names.Pairwise (· < ·)) : (insertName name names).Pairwise (· < ·) := by
  induction names with
  | nil => exact List.pairwise_singleton _ _
  | cons head rest ih =>
      have hhead := (List.pairwise_cons.1 h).1
      have hrest := (List.pairwise_cons.1 h).2
      rw [insertName]
      split_ifs with hlt heq
      · refine List.pairwise_cons.2 ⟨fun other hother => ?_, h⟩
        rcases List.mem_cons.1 hother with rfl | hother
        · exact hlt
        · exact hlt.trans (hhead other hother)
      · exact h
      · refine List.pairwise_cons.2 ⟨fun other hother => ?_, ih hrest⟩
        rcases mem_insertName.1 hother with rfl | hother
        · exact lt_of_le_of_ne (not_lt.1 hlt) (Ne.symm heq)
        · exact hhead other hother

theorem pairwise_ascending (names : List String) : (ascending names).Pairwise (· < ·) := by
  have hfold : ∀ acc : List String, acc.Pairwise (· < ·) →
      (names.foldl (fun acc name => insertName name acc) acc).Pairwise (· < ·) := by
    induction names with
    | nil => exact fun _ hacc => hacc
    | cons name names ih => exact fun _ hacc => ih _ (pairwise_insertName hacc)
  exact hfold [] .nil

theorem eq_of_nonEmpty?_eq_some {names shared : List String} (h : nonEmpty? names = some shared) :
    names = shared := by
  cases names with
  | nil => cases h
  | cons name names => exact Option.some.inj h

/-- Shared hosts are listed in strictly ascending order. -/
theorem pairwise_of_intersection? {listener : Option String} {route shared : List String}
    (h : intersection? listener route = some shared) : shared.Pairwise (· < ·) := by
  unfold intersection? at h
  split at h
  · obtain rfl := Option.some.inj h
    exact .nil
  · obtain rfl := Option.some.inj h
    exact pairwise_ascending _
  · obtain rfl := Option.some.inj h
    exact List.pairwise_singleton _ _
  · rw [← eq_of_nonEmpty?_eq_some h]
    exact pairwise_ascending _

end GatewayCompiler.Hostname
