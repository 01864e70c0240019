import GatewayCompiler.Proofs.Outcome

/-!
# Agreement of runs

Two runs are put beside each other step by step.  What one step leaves of their agreement is said
once for the monad; loops, and runs with a state, then follow.
-/

namespace GatewayCompiler

/-- A relation between runs that holds of one answer and itself and is kept when steps that are
related follow one another. -/
structure StepRelation (m : Type → Type) [Monad m] where
  Agree : {α : Type} → m α → m α → Prop
  pure : ∀ {α : Type} (a : α), Agree (Pure.pure a) (Pure.pure a)
  bind : ∀ {α β : Type} {x y : m α} {f g : α → m β},
    Agree x y → (∀ a, Agree (f a) (g a)) → Agree (x >>= f) (y >>= g)

namespace StepRelation

variable {m : Type → Type} [Monad m] {α β : Type}

theorem foldlM (relation : StepRelation m) {f g : β → α → m β} {xs : List α}
    (h : ∀ acc, ∀ x ∈ xs, relation.Agree (f acc x) (g acc x)) (init : β) :
    relation.Agree (xs.foldlM f init) (xs.foldlM g init) := by
  induction xs generalizing init with
  | nil => exact relation.pure _
  | cons x xs ih =>
      have hrest := ih fun acc other hother => h acc other (List.mem_cons_of_mem x hother)
      rw [List.foldlM_cons, List.foldlM_cons]
      exact relation.bind (h init x List.mem_cons_self) hrest

theorem mapM [LawfulMonad m] (relation : StepRelation m) {f g : α → m β}
    (h : ∀ x, relation.Agree (f x) (g x)) (xs : List α) :
    relation.Agree (xs.mapM f) (xs.mapM g) := by
  induction xs with
  | nil => exact relation.pure _
  | cons x xs ih =>
      rw [List.mapM_cons, List.mapM_cons]
      exact relation.bind (h x) fun _ => relation.bind ih fun _ => relation.pure _

end StepRelation

/-- A relation between runs that holds of equal runs and is kept when steps that are related follow
one another. -/
structure Agreement (m : Type → Type) [Monad m] where
  Agree : {α : Type} → m α → m α → Prop
  refl : ∀ {α : Type} (x : m α), Agree x x
  bind : ∀ {α β : Type} {x y : m α} {f g : α → m β},
    Agree x y → (∀ a, Agree (f a) (g a)) → Agree (x >>= f) (y >>= g)

namespace Agreement

variable {m : Type → Type} [Monad m] {α β σ : Type}

def steps (agreement : Agreement m) : StepRelation m where
  Agree := agreement.Agree
  pure _ := agreement.refl _
  bind := agreement.bind

theorem foldlM (agreement : Agreement m) {f g : β → α → m β}
    (h : ∀ acc x, agreement.Agree (f acc x) (g acc x)) (xs : List α) (init : β) :
    agreement.Agree (xs.foldlM f init) (xs.foldlM g init) :=
  agreement.steps.foldlM (fun acc x _ => h acc x) init

theorem mapM [LawfulMonad m] (agreement : Agreement m) {f g : α → m β}
    (h : ∀ x, agreement.Agree (f x) (g x)) (xs : List α) :
    agreement.Agree (xs.mapM f) (xs.mapM g) :=
  agreement.steps.mapM h xs

/-- Steps with a state agree when they do from every state. -/
def withState (agreement : Agreement m) : Agreement (StateT σ m) where
  Agree x y := ∀ s, agreement.Agree (x.run s) (y.run s)
  refl _ _ := agreement.refl _
  bind hx hf s := by
    rw [StateT.run_bind, StateT.run_bind]
    exact agreement.bind (hx s) fun next => hf next.1 next.2

theorem lift_withState (agreement : Agreement m) {x y : m α} (h : agreement.Agree x y) :
    (agreement.withState (σ := σ)).Agree (liftM x) (liftM y) := by
  intro s
  exact agreement.bind h fun _ => agreement.refl _

end Agreement

section Follows

variable {ε α β γ δ : Type}

/-- The outcome of a run and that of one that follows it: results that are related, or the same
fault, unless the first run has a fault that the other one need not follow. -/
inductive Follows (excused : ε → Prop) (related : α → β → Prop) :
    Except ε α → Except ε β → Prop where
  | ok {a : α} {b : β} (h : related a b) : Follows excused related (.ok a) (.ok b)
  | fault (e : ε) : Follows excused related (.error e) (.error e)
  | excused {e : ε} (h : excused e) (y : Except ε β) : Follows excused related (.error e) y

namespace Follows

variable {excused : ε → Prop} {related : α → β → Prop} {related' : γ → δ → Prop}
  {x : Except ε α} {y : Except ε β}

theorem bind {f : α → Except ε γ} {g : β → Except ε δ} (hxy : Follows excused related x y)
    (hfg : ∀ a b, x = .ok a → y = .ok b → related a b → Follows excused related' (f a) (g b)) :
    Follows excused related' (x >>= f) (y >>= g) := by
  cases hxy with
  | ok h => exact hfg _ _ rfl rfl h
  | fault e => exact .fault e
  | excused h y => exact .excused h _

/-- A run is followed past a step that both take. -/
theorem bind_same {f : α → Except ε γ} {g : α → Except ε δ}
    (hfg : ∀ a, Follows excused related' (f a) (g a)) :
    Follows excused related' (x >>= f) (x >>= g) := by
  cases x with
  | error e => exact .fault e
  | ok a => exact hfg a

theorem map {f : α → γ} {g : β → δ} (hxy : Follows excused related x y)
    (hfg : ∀ a b, related a b → related' (f a) (g b)) :
    Follows excused related' (x.map f) (y.map g) := by
  cases hxy with
  | ok h => exact .ok (hfg _ _ h)
  | fault e => exact .fault e
  | excused h y => exact .excused h _

theorem exists_of_eq_ok {a : α} (hxy : Follows excused related x y) (hx : x = .ok a) :
    ∃ b, y = .ok b ∧ related a b := by
  subst hx
  cases hxy with
  | ok h => exact ⟨_, rfl, h⟩

theorem of_eq_error {e : ε} (hxy : Follows excused related x y) (hx : x = .error e) :
    y = .error e ∨ excused e := by
  subst hx
  cases hxy with
  | fault => exact .inl rfl
  | excused h => exact .inr h

theorem foldlM {f : γ → α → Except ε γ} {g : δ → α → Except ε δ}
    (h : ∀ acc acc' a, related' acc acc' → Follows excused related' (f acc a) (g acc' a))
    (as : List α) {init : γ} {init' : δ} (hinit : related' init init') :
    Follows excused related' (as.foldlM f init) (as.foldlM g init') := by
  induction as generalizing init init' with
  | nil => exact .ok hinit
  | cons a as ih =>
      rw [List.foldlM_cons, List.foldlM_cons]
      apply bind (h init init' a hinit)
      intro next next' _ _ hnext
      exact ih hnext

end Follows

end Follows

/-- Whether an outcome is that a reference was refused. -/
def IsRefused {α : Type} (outcome : Except Fault α) : Prop :=
  ∃ source target field, outcome = .error (.unauthorized source target field)

theorem IsRefused.bind {α β : Type} {x : Except Fault α} (h : IsRefused x)
    (f : α → Except Fault β) : IsRefused (x >>= f) := by
  obtain ⟨source, target, field, rfl⟩ := h
  exact ⟨source, target, field, rfl⟩

/-- Outcomes that are the same unless the first is a refusal. -/
def unlessRefused : Agreement (Except Fault) where
  Agree x y := IsRefused x ∨ x = y
  refl _ := .inr rfl
  bind := by
    rintro _ _ x _ f g (hrefused | rfl) hf
    · exact .inl (hrefused.bind f)
    · cases x with
      | error fault => exact .inr rfl
      | ok a => exact hf a

/-- Reports that are the same, with their notices, unless the outcome of the first is a refusal. -/
def reportUnlessRefused : Agreement (Report Fault) where
  Agree x y := IsRefused x.outcome ∨ x = y
  refl _ := .inr rfl
  bind := by
    rintro _ _ x _ f g (hrefused | rfl) hf
    · rw [Report.outcome_bind]
      exact .inl (hrefused.bind _)
    · obtain ⟨notices, outcome⟩ := x
      cases outcome with
      | error fault => exact .inr rfl
      | ok a =>
          refine (hf a).imp ?_ ?_
          · intro hrefused
            rw [Report.outcome_bind]
            exact hrefused
          · intro hsame
            change Report.bind _ f = Report.bind _ g
            simp only [Report.bind, hsame]

theorem lift_reportUnlessRefused {α : Type} {x y : Except Fault α} (h : unlessRefused.Agree x y) :
    reportUnlessRefused.Agree (liftM x) (liftM y) := by
  refine h.imp id ?_
  rintro rfl
  rfl

end GatewayCompiler
