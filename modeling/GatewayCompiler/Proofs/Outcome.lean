import GatewayCompiler.Report
import Mathlib.Data.List.Forall2

/-!
# Successful outcomes

Most results of this library are about what a successful run has done.  These lemmas take such a run
apart: a sequence of steps succeeds exactly when each step does on what the step before it left.
-/

namespace GatewayCompiler

variable {ε σ α β : Type}

theorem ok_bind (a : α) (f : α → Except ε β) : Except.ok a >>= f = f a :=
  rfl

theorem bind_eq_ok {x : Except ε α} {f : α → Except ε β} {b : β} :
    x >>= f = .ok b ↔ ∃ a, x = .ok a ∧ f a = .ok b := by
  cases x with
  | error e =>
      constructor
      · intro h
        cases h
      · rintro ⟨_, h, _⟩
        cases h
  | ok a =>
      constructor
      · intro h
        exact ⟨a, rfl, h⟩
      · rintro ⟨_, ⟨⟩, h⟩
        exact h

theorem map_eq_ok {x : Except ε α} {f : α → β} {b : β} :
    x.map f = .ok b ↔ ∃ a, x = .ok a ∧ f a = b := by
  cases x <;> simp [Except.map]

theorem map_eq_error {x : Except ε α} {f : α → β} {e : ε} : x.map f = .error e ↔ x = .error e := by
  cases x <;> simp [Except.map]

theorem mapError_eq_ok {δ : Type} {x : Except ε α} {f : ε → δ} {a : α} :
    x.mapError f = .ok a ↔ x = .ok a := by
  cases x <;> simp [Except.mapError]

@[simp]
theorem pure_eq_ok {a b : α} : (pure a : Except ε α) = .ok b ↔ a = b :=
  ⟨fun h => Except.ok.inj h, fun h => h ▸ rfl⟩

@[simp]
theorem throw_ne_ok {e : ε} {a : α} : (throw e : Except ε α) ≠ .ok a :=
  fun h => nomatch h

/-- A traversal succeeds exactly when it does on every element. -/
theorem mapM_eq_ok_iff {f : α → Except ε β} {xs : List α} {ys : List β} :
    xs.mapM f = .ok ys ↔ List.Forall₂ (fun x y => f x = .ok y) xs ys := by
  induction xs generalizing ys with
  | nil =>
      rw [List.mapM_nil, pure_eq_ok, List.forall₂_nil_left_iff]
      exact eq_comm
  | cons x xs ih =>
      simp only [List.mapM_cons, bind_eq_ok, pure_eq_ok, ih]
      constructor
      · rintro ⟨y, hy, rest, hrest, rfl⟩
        exact .cons hy hrest
      · rintro (_ | ⟨hy, hrest⟩)
        exact ⟨_, hy, _, hrest, rfl⟩

/-- A traversal fails exactly with the fault of the first element that has one. -/
theorem mapM_eq_error_iff {f : α → Except ε β} {xs : List α} {e : ε} :
    xs.mapM f = .error e ↔ ∃ before x after, xs = before ++ x :: after ∧
      (∀ y ∈ before, ∃ b, f y = .ok b) ∧ f x = .error e := by
  constructor
  · intro h
    induction xs with
    | nil => cases h
    | cons x xs ih =>
        rw [List.mapM_cons] at h
        cases hx : f x with
        | error fault =>
            rw [hx] at h
            cases h
            exact ⟨[], x, xs, rfl, List.forall_mem_nil _, hx⟩
        | ok b =>
            rw [hx, ok_bind] at h
            cases hrest : xs.mapM f with
            | ok bs =>
                rw [hrest] at h
                cases h
            | error fault =>
                rw [hrest] at h
                cases h
                obtain ⟨before, z, after, rfl, hbefore, hz⟩ := ih hrest
                exact ⟨x :: before, z, after, rfl,
                  List.forall_mem_cons.2 ⟨⟨b, hx⟩, hbefore⟩, hz⟩
  · rintro ⟨before, x, after, rfl, hbefore, hx⟩
    induction before with
    | nil =>
        rw [List.nil_append, List.mapM_cons, hx]
        rfl
    | cons y before ih =>
        obtain ⟨⟨b, hy⟩, hbefore⟩ := List.forall_mem_cons.1 hbefore
        rw [List.cons_append, List.mapM_cons, hy, ok_bind, ih hbefore]
        rfl

theorem exists_of_mem_mapM {f : α → Except ε β} {xs : List α} {ys : List β}
    (h : xs.mapM f = .ok ys) {y : β} (hy : y ∈ ys) : ∃ x ∈ xs, f x = .ok y := by
  rw [mapM_eq_ok_iff] at h
  induction h with
  | nil => cases hy
  | cons hx _ ih =>
      obtain rfl | hy := List.mem_cons.1 hy
      · exact ⟨_, List.mem_cons_self, hx⟩
      · obtain ⟨x, hmem, hx⟩ := ih hy
        exact ⟨x, List.mem_cons_of_mem _ hmem, hx⟩

/-- A traversal by steps that succeed wherever those of another do succeeds where it does. -/
theorem mapM_eq_ok_of_imp {f g : α → Except ε β} {xs : List α} {ys : List β}
    (h : xs.mapM f = .ok ys) (himp : ∀ x ∈ xs, ∀ y, f x = .ok y → g x = .ok y) :
    xs.mapM g = .ok ys := by
  rw [mapM_eq_ok_iff] at h ⊢
  induction h with
  | nil => exact .nil
  | cons hx _ ih =>
      refine .cons (himp _ List.mem_cons_self _ hx) (ih ?_)
      intro x hmem
      exact himp x (List.mem_cons_of_mem _ hmem)

theorem exists_eq_ok_of_mem {f : α → Except ε β} {xs : List α} {ys : List β}
    (h : xs.mapM f = .ok ys) {x : α} (hx : x ∈ xs) : ∃ y, f x = .ok y := by
  rw [mapM_eq_ok_iff] at h
  induction h with
  | nil => cases hx
  | @cons _ y _ _ hy _ ih =>
      obtain rfl | hx := List.mem_cons.1 hx
      · exact ⟨y, hy⟩
      · exact ih hx

/-- A traversal with places succeeds on every element at its place. -/
theorem exists_eq_ok_at_place {f : α × Nat → Except ε β} {xs : List α} {ys : List β}
    (h : xs.zipIdx.mapM f = .ok ys) {x : α} (hx : x ∈ xs) : ∃ index y, f (x, index) = .ok y := by
  obtain ⟨index, hindex⟩ := List.mem_iff_getElem?.1 hx
  have hplace : (x, index) ∈ xs.zipIdx := List.mk_mem_zipIdx_iff_getElem?.2 hindex
  exact ⟨index, exists_eq_ok_of_mem h hplace⟩

/-- The answer at a place is the answer for the element at that place. -/
theorem exists_getElem?_of_mapM_zipIdx {f : α × Nat → Except ε β} {xs : List α} {ys : List β}
    (h : xs.zipIdx.mapM f = .ok ys) {index : Nat} {x : α} (hx : xs[index]? = some x) :
    ∃ y, ys[index]? = some y ∧ f (x, index) = .ok y := by
  have hlist := mapM_eq_ok_iff.1 h
  obtain ⟨hxs, rfl⟩ := List.getElem?_eq_some_iff.1 hx
  have hlength : xs.length = ys.length := by
    rw [← hlist.length_eq, List.length_zipIdx]
  have hys : index < ys.length := hlength ▸ hxs
  have hplace := hlist.get (by simpa using hxs) hys
  refine ⟨ys[index], List.getElem?_eq_getElem hys, ?_⟩
  simpa using hplace

/-- A traversal with places fails with the fault of the first place that has one. -/
theorem exists_first_of_mapM_zipIdx {f : α × Nat → Except ε β} {xs : List α} {e : ε}
    (h : xs.zipIdx.mapM f = .error e) :
    ∃ index x, xs[index]? = some x ∧ f (x, index) = .error e ∧
      ∀ earlier < index, ∀ y, xs[earlier]? = some y → ∃ b, f (y, earlier) = .ok b := by
  obtain ⟨before, ⟨x, index⟩, after, hplaces, hbefore, hfault⟩ := mapM_eq_error_iff.1 h
  have hat (place : Nat) (y : α) (hy : xs[place]? = some y) :
      (before ++ (x, index) :: after)[place]? = some (y, place) := by
    rw [← hplaces, List.getElem?_zipIdx, hy, Option.map_some, Nat.zero_add]
  have hx : xs[index]? = some x := by
    rw [← List.mk_mem_zipIdx_iff_getElem?, hplaces]
    exact List.mem_append_right _ List.mem_cons_self
  have hindex : index = before.length := by
    have hplace : xs.zipIdx[before.length]? = some (x, index) := by
      rw [hplaces, List.getElem?_append_right (Nat.le_refl _), Nat.sub_self]
      rfl
    rw [List.getElem?_zipIdx] at hplace
    obtain ⟨_, -, hpair⟩ := Option.map_eq_some_iff.1 hplace
    rw [← (Prod.mk.inj hpair).2, Nat.zero_add]
  refine ⟨index, x, hx, hfault, ?_⟩
  intro earlier hlt y hy
  have hmem := hat earlier y hy
  rw [List.getElem?_append_left (hindex ▸ hlt)] at hmem
  exact hbefore _ (List.mem_of_getElem? hmem)

/-- What each element tells of its answer, all elements tell of all answers. -/
theorem map_eq_of_mapM {γ : Type} {f : α → Except ε β} {g : β → γ} {k : α → γ} {xs : List α}
    {ys : List β} (h : xs.mapM f = .ok ys) (hf : ∀ x y, f x = .ok y → g y = k x) :
    ys.map g = xs.map k := by
  rw [mapM_eq_ok_iff] at h
  induction h with
  | nil => rfl
  | cons hy _ ih => rw [List.map_cons, List.map_cons, ih, hf _ _ hy]

theorem flatMap_eq_of_mapM {γ : Type} {f : α → Except ε β} {g : β → List γ} {k : α → List γ}
    {xs : List α} {ys : List β} (h : xs.mapM f = .ok ys) (hf : ∀ x y, f x = .ok y → g y = k x) :
    ys.flatMap g = xs.flatMap k := by
  rw [List.flatMap_def, List.flatMap_def, map_eq_of_mapM h hf]

/-- The same of a traversal with places, where no element tells its place. -/
theorem map_eq_of_mapM_zipIdx {γ : Type} {f : α × Nat → Except ε β} {g : β → γ} {k : α → γ}
    {xs : List α} {ys : List β} (h : xs.zipIdx.mapM f = .ok ys)
    (hf : ∀ x index y, f (x, index) = .ok y → g y = k x) : ys.map g = xs.map k := by
  have hplaces : ys.map g = xs.zipIdx.map fun entry => k entry.1 := by
    apply map_eq_of_mapM h
    intro entry y hy
    exact hf entry.1 entry.2 y hy
  calc ys.map g = (xs.zipIdx.map (·.1)).map k := by rw [hplaces, List.map_map]; rfl
    _ = xs.map k := by rw [List.zipIdx_map_fst]

theorem flatMap_eq_of_mapM_zipIdx {γ : Type} {f : α × Nat → Except ε β} {g : β → List γ}
    {k : α → List γ} {xs : List α} {ys : List β} (h : xs.zipIdx.mapM f = .ok ys)
    (hf : ∀ x index y, f (x, index) = .ok y → g y = k x) : ys.flatMap g = xs.flatMap k := by
  rw [List.flatMap_def, List.flatMap_def, map_eq_of_mapM_zipIdx h hf]

/-- A traversal for its faults alone succeeds exactly when no element has one. -/
theorem forM_eq_ok_iff {f : α → Except ε Unit} {xs : List α} :
    xs.forM f = .ok () ↔ ∀ x ∈ xs, f x = .ok () := by
  induction xs with
  | nil => simp
  | cons x xs ih =>
      have hcons : (x :: xs).forM f = (f x >>= fun _ => xs.forM f) := rfl
      rw [hcons, bind_eq_ok, List.forall_mem_cons, ← ih]
      exact ⟨fun ⟨_, hx, hrest⟩ => ⟨hx, hrest⟩, fun ⟨hx, hrest⟩ => ⟨(), hx, hrest⟩⟩

theorem forM_eq_map_mapM {f : α → Except ε Unit} (xs : List α) :
    xs.forM f = (xs.mapM f).map fun _ => () := by
  induction xs with
  | nil => rfl
  | cons x xs ih =>
      have hcons : (x :: xs).forM f = (f x >>= fun _ => xs.forM f) := rfl
      rw [hcons, ih, List.mapM_cons]
      cases f x with
      | error fault => rfl
      | ok done => cases xs.mapM f <;> rfl

/-- A traversal for its faults fails exactly with the fault of the first element that has one. -/
theorem forM_eq_error_iff {f : α → Except ε Unit} {xs : List α} {e : ε} :
    xs.forM f = .error e ↔ ∃ before x after, xs = before ++ x :: after ∧
      (∀ y ∈ before, f y = .ok ()) ∧ f x = .error e := by
  have hdone (y : α) : (∃ done, f y = .ok done) ↔ f y = .ok () :=
    ⟨fun ⟨_, hy⟩ => hy, fun hy => ⟨(), hy⟩⟩
  simp only [forM_eq_map_mapM, map_eq_error, mapM_eq_error_iff, hdone]

theorem forM_append {f : α → Except ε Unit} (xs ys : List α) :
    (xs ++ ys).forM f = xs.forM f >>= fun _ => ys.forM f :=
  List.forM_append

theorem forM_map {f : β → Except ε Unit} {g : α → β} (xs : List α) :
    (xs.map g).forM f = xs.forM fun x => f (g x) :=
  List.forM_map

/-- A traversal of lists one after another is a traversal of traversals. -/
theorem forM_flatMap {f : β → Except ε Unit} {g : α → List β} (xs : List α) :
    (xs.flatMap g).forM f = xs.forM fun x => (g x).forM f := by
  induction xs with
  | nil => rfl
  | cons x xs ih =>
      rw [List.flatMap_cons, forM_append, ih]
      rfl

/-- Loops whose steps agree on every element agree. -/
theorem foldlM_congr {m : Type → Type} [Monad m] {f g : β → α → m β} {xs : List α}
    (h : ∀ x ∈ xs, ∀ acc, f acc x = g acc x) (init : β) : xs.foldlM f init = xs.foldlM g init := by
  induction xs generalizing init with
  | nil => rfl
  | cons x xs ih =>
      have hrest : ∀ acc, xs.foldlM f acc = xs.foldlM g acc :=
        ih fun other hother => h other (List.mem_cons_of_mem x hother)
      rw [List.foldlM_cons, List.foldlM_cons, h x List.mem_cons_self]
      simp only [hrest]

/-- Steps that agree on every element give the same list, or fail alike. -/
theorem mapM_congr {f g : α → Except ε β} {xs : List α} (h : ∀ x ∈ xs, f x = g x) :
    xs.mapM f = xs.mapM g := by
  induction xs with
  | nil => rfl
  | cons x xs ih =>
      rw [List.mapM_cons, List.mapM_cons, h x List.mem_cons_self,
        ih fun other hother => h other (List.mem_cons_of_mem x hother)]

/-- A step that may fail, taken in a run with a state, leaves the state alone. -/
theorem run_liftM_eq_ok {x : Except ε α} {s s' : σ} {a : α} :
    (liftM x : StateT σ (Except ε) α).run s = .ok (a, s') ↔ x = .ok a ∧ s = s' := by
  change (x >>= fun a => pure (a, s)) = _ ↔ _
  rw [bind_eq_ok]
  simp

namespace Report

theorem mk_ok_bind (notices : List Notice) (a : α) (f : α → Report ε β) :
    (⟨notices, .ok a⟩ : Report ε α) >>= f = ⟨notices ++ (f a).notices, (f a).outcome⟩ :=
  rfl

/-- Steps can be grouped in any way, notices included. -/
instance : LawfulMonad (Report ε) := LawfulMonad.mk' (Report ε)
  (fun x => by
    obtain ⟨notices, _ | a⟩ := x
    · rfl
    · exact congrArg (Report.mk · (.ok a)) (List.append_nil notices))
  (fun _ _ => rfl)
  (fun x f g => by
    obtain ⟨first, _ | a⟩ := x
    · rfl
    · rw [mk_ok_bind, mk_ok_bind]
      obtain ⟨second, _ | b⟩ := f a
      · rfl
      · exact congrArg (Report.mk · (g b).outcome) (List.append_assoc first second (g b).notices))

/-- The outcome of steps one after another is told without their notices. -/
theorem outcome_bind (x : Report ε α) (f : α → Report ε β) :
    (x >>= f).outcome = x.outcome >>= fun a => (f a).outcome := by
  change (x.bind f).outcome = _
  unfold bind
  cases x.outcome <;> rfl

/-- Reports whose outcomes are in order are reports of steps that all succeed. -/
theorem outcome_bind_eq_ok {x : Report ε α} {f : α → Report ε β} {b : β} :
    (x >>= f).outcome = .ok b ↔ ∃ a, x.outcome = .ok a ∧ (f a).outcome = .ok b := by
  rw [outcome_bind, bind_eq_ok]

/-- Another account of its fault leaves a report that is in order as it is. -/
theorem outcome_mapFault_eq_ok {δ : Type} {f : ε → δ} {report : Report ε α} {a : α} :
    (report.mapFault f).outcome = .ok a ↔ report.outcome = .ok a :=
  mapError_eq_ok

@[simp]
theorem outcome_pure (a : α) : (Pure.pure a : Report ε α).outcome = .ok a :=
  rfl

@[simp]
theorem outcome_liftM (x : Except ε α) : (liftM x : Report ε α).outcome = x :=
  rfl

@[simp]
theorem outcome_fail (e : ε) : (fail e : Report ε α).outcome = .error e :=
  rfl

@[simp]
theorem outcome_note (notices : List Notice) : (note notices : Report ε Unit).outcome = .ok () :=
  rfl

end Report

end GatewayCompiler
