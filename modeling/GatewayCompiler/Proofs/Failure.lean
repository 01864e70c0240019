import GatewayCompiler.Proofs.Outcome

/-!
# Failing outcomes

Where a fault of a run can come from is told by what each of its steps can fail with.  A step is
only taken after the steps before it have succeeded, and may be told apart from others by what they
have left.
-/

namespace GatewayCompiler

variable {ε σ α β : Type} {P Q : ε → Prop}

/-- An outcome that, if it is a fault, is one of these. -/
def FailsOnly (P : ε → Prop) (x : Except ε α) : Prop :=
  ∀ e, x = .error e → P e

namespace FailsOnly

theorem ok (a : α) : FailsOnly P (.ok a : Except ε α) :=
  fun _ h => nomatch h

theorem pure (a : α) : FailsOnly P (Pure.pure a : Except ε α) :=
  ok a

theorem error {e : ε} (h : P e) : FailsOnly P (.error e : Except ε α) := by
  rintro _ ⟨⟩
  exact h

theorem throw {e : ε} (h : P e) : FailsOnly P (MonadExcept.throw e : Except ε α) :=
  error h

theorem mono {x : Except ε α} (h : FailsOnly P x) (hPQ : ∀ e, P e → Q e) : FailsOnly Q x :=
  fun e he => hPQ e (h e he)

/-- What two steps fail with is what either fails with, the second after the first. -/
theorem bind {x : Except ε α} {f : α → Except ε β} (hx : FailsOnly P x)
    (hf : ∀ a, x = .ok a → FailsOnly P (f a)) : FailsOnly P (x >>= f) := by
  cases x with
  | error e => exact error (hx e rfl)
  | ok a => exact hf a rfl

/-- What would come after a fault does not matter. -/
theorem throw_bind {e : ε} (h : P e) (f : α → Except ε β) :
    FailsOnly P (MonadExcept.throw e >>= f) :=
  error h

theorem map {x : Except ε α} (hx : FailsOnly P x) (f : α → β) : FailsOnly P (x.map f) :=
  fun e he => hx e (map_eq_error.1 he)

theorem mapM {f : α → Except ε β} {xs : List α} (h : ∀ x ∈ xs, FailsOnly P (f x)) :
    FailsOnly P (xs.mapM f) := by
  induction xs with
  | nil => exact pure _
  | cons x xs ih =>
      rw [List.mapM_cons]
      apply bind (h x List.mem_cons_self)
      intro y _
      apply bind (ih fun other hother => h other (List.mem_cons_of_mem x hother))
      intro ys _
      exact pure _

theorem foldlM {f : β → α → Except ε β} {xs : List α} (h : ∀ acc, ∀ x ∈ xs, FailsOnly P (f acc x))
    (init : β) : FailsOnly P (xs.foldlM f init) := by
  induction xs generalizing init with
  | nil => exact pure _
  | cons x xs ih =>
      rw [List.foldlM_cons]
      apply bind (h init x List.mem_cons_self)
      intro next _
      exact ih (fun acc other hother => h acc other (List.mem_cons_of_mem x hother)) next

/-- A step that may fail, taken in a run with a state, fails with what it fails with alone. -/
theorem run_liftM {x : Except ε α} (h : FailsOnly P x) (s : σ) :
    FailsOnly P ((liftM x : StateT σ (Except ε) α).run s) :=
  bind h fun _ _ => pure _

theorem run_bind {x : StateT σ (Except ε) α} {f : α → StateT σ (Except ε) β} {s : σ}
    (hx : FailsOnly P (x.run s)) (hf : ∀ a s', x.run s = .ok (a, s') → FailsOnly P ((f a).run s')) :
    FailsOnly P ((x >>= f).run s) := by
  rw [StateT.run_bind]
  exact bind hx fun next hnext => hf next.1 next.2 hnext

theorem run_mapM {f : α → StateT σ (Except ε) β} {xs : List α}
    (h : ∀ x ∈ xs, ∀ s, FailsOnly P ((f x).run s)) (s : σ) : FailsOnly P ((xs.mapM f).run s) := by
  induction xs generalizing s with
  | nil => exact pure _
  | cons x xs ih =>
      have hrest := ih fun other hother => h other (List.mem_cons_of_mem x hother)
      rw [List.mapM_cons]
      apply run_bind (h x List.mem_cons_self s)
      intro y s' _
      apply run_bind (hrest s')
      intro ys s'' _
      exact pure _

theorem run_foldlM {f : β → α → StateT σ (Except ε) β} {xs : List α}
    (h : ∀ acc, ∀ x ∈ xs, ∀ s, FailsOnly P ((f acc x).run s)) (init : β) (s : σ) :
    FailsOnly P ((xs.foldlM f init).run s) := by
  induction xs generalizing init s with
  | nil => exact pure _
  | cons x xs ih =>
      rw [List.foldlM_cons]
      apply run_bind (h init x List.mem_cons_self s)
      intro next s' _
      exact ih (fun acc other hother => h acc other (List.mem_cons_of_mem x hother)) next s'

end FailsOnly

/-- The fault says of an object that something in it is malformed or has no translation. -/
inductive Fault.IsAbout (object : ObjectRef) : Fault → Prop where
  | unsupported (field detail : String) : IsAbout object (.unsupported object field detail)
  | invalid (field detail : String) : IsAbout object (.invalid object field detail)

theorem Report.outcome_foldlM (f : β → α → Report ε β) (xs : List α) (init : β) :
    (xs.foldlM f init).outcome = xs.foldlM (fun acc x => (f acc x).outcome) init := by
  induction xs generalizing init with
  | nil => rfl
  | cons x xs ih =>
      rw [List.foldlM_cons, Report.outcome_bind, List.foldlM_cons]
      simp only [ih]

end GatewayCompiler
