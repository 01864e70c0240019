import GatewayCompiler.Proofs.Outcome
import GatewayCompiler.Translation.RuleFilters
import Mathlib.Data.List.Perm.Basic

/-!
# Filters of a rule

Filters are met one after another, and each puts what it carries into the part of its kind.  Since
no kind is met twice, nothing is put over anything else: which lists are accepted, and what is read
of them, is told by what is in the list, and so does not depend on its order.  In particular a rule
redirects exactly when one of its filters is of the kind that redirects.
-/

namespace GatewayCompiler

/-- The kind of the filters that change the headers of requests. -/
def requestHeadersKind : String := "RequestHeaderModifier"

/-- The kind of the filters that change the headers of responses. -/
def responseHeadersKind : String := "ResponseHeaderModifier"

/-- The kind of the filters that redirect. -/
def redirectKind : String := "RequestRedirect"

/-- The kind of the filters that rewrite. -/
def rewriteKind : String := "URLRewrite"

/-- A filter of a supported kind that carries the body of its kind. -/
@[mk_iff]
structure RouteFilter.IsWhole (filter : RouteFilter) : Prop where
  supported : filter.kind ∈ [requestHeadersKind, responseHeadersKind, redirectKind, rewriteKind]
  requestHeaders : filter.kind = requestHeadersKind → filter.requestHeaderModifier.isSome
  responseHeaders : filter.kind = responseHeadersKind → filter.responseHeaderModifier.isSome
  redirect : filter.kind = redirectKind → filter.requestRedirect.isSome
  rewrite : filter.kind = rewriteKind → filter.urlRewrite.isSome

/-- A list of filters that a rule may have. -/
structure RouteFilter.AreReadable (list : List RouteFilter) : Prop where
  whole : ∀ filter ∈ list, filter.IsWhole
  distinct : (list.map (·.kind)).Nodup
  exclusive : ¬ ((∃ filter ∈ list, filter.kind = redirectKind) ∧
    ∃ filter ∈ list, filter.kind = rewriteKind)

namespace RuleFilters

/-- The part of the filters of a rule that one kind of filters is for. -/
structure Part (β : Type) where
  kind : String
  /-- What a filter of the kind puts into the part. -/
  given : RouteFilter → Option β
  held : RuleFilters → β

namespace Part

def requestHeaders : Part HeaderChanges :=
  ⟨requestHeadersKind, (·.requestHeaderModifier.map (·.changes)), (·.requestHeaders)⟩

def responseHeaders : Part HeaderChanges :=
  ⟨responseHeadersKind, (·.responseHeaderModifier.map (·.changes)), (·.responseHeaders)⟩

def redirect : Part (Option RequestRedirect) :=
  ⟨redirectKind, (·.requestRedirect.map some), (·.redirect)⟩

def rewrite : Part (Option UrlRewrite) :=
  ⟨rewriteKind, (·.urlRewrite.map some), (·.rewrite)⟩

variable {α β : Type} {part : Part β} {list list' : List RouteFilter}
  {before mid after after' : RuleFilters}

/-- The part holds what the filters of its kind give, and without any what it held before. -/
structure IsTaken (part : Part β) (list : List RouteFilter) (before after : RuleFilters) :
    Prop where
  present : ∀ filter ∈ list, filter.kind = part.kind → part.given filter = some (part.held after)
  absent : (∀ filter ∈ list, filter.kind ≠ part.kind) → part.held after = part.held before

theorem IsTaken.nil (part : Part β) (filters : RuleFilters) : part.IsTaken [] filters filters where
  present := List.forall_mem_nil _
  absent _ := rfl

theorem IsTaken.of_kind {filter : RouteFilter} (hkind : filter.kind = part.kind)
    (hgiven : part.given filter = some (part.held after)) : part.IsTaken [filter] before after where
  present := List.forall_mem_singleton.2 fun _ => hgiven
  absent hnone := absurd hkind (hnone filter List.mem_cons_self)

theorem IsTaken.of_other {filter : RouteFilter} (hkind : filter.kind ≠ part.kind)
    (hheld : part.held after = part.held before) : part.IsTaken [filter] before after where
  present := List.forall_mem_singleton.2 fun hsame => absurd hsame hkind
  absent _ := hheld

/-- What a filter gives stays where no filter of its kind comes later. -/
theorem IsTaken.cons {filter : RouteFilter} (hfirst : part.IsTaken [filter] before mid)
    (hrest : part.IsTaken list mid after) (hother : ∀ other ∈ list, other.kind ≠ filter.kind) :
    part.IsTaken (filter :: list) before after where
  present := by
    intro other hmem hkind
    obtain rfl | hmem := List.mem_cons.1 hmem
    · have hkept : part.held after = part.held mid := by
        apply hrest.absent
        intro later hlater hsame
        exact hother later hlater (hsame.trans hkind.symm)
      rw [hkept]
      exact hfirst.present other List.mem_cons_self hkind
    · exact hrest.present other hmem hkind
  absent := by
    intro hnone
    obtain ⟨hfilter, hlist⟩ := List.forall_mem_cons.1 hnone
    rw [hrest.absent hlist, hfirst.absent (List.forall_mem_singleton.2 hfilter)]

/-- The list says what the part holds. -/
theorem IsTaken.held_eq (h : part.IsTaken list before after)
    (h' : part.IsTaken list before after') : part.held after = part.held after' := by
  by_cases hkind : ∃ filter ∈ list, filter.kind = part.kind
  · obtain ⟨filter, hmem, hkind⟩ := hkind
    have hgiven := h.present filter hmem hkind
    rw [h'.present filter hmem hkind] at hgiven
    exact (Option.some.inj hgiven).symm
  · have hnone : ∀ filter ∈ list, filter.kind ≠ part.kind := by
      intro filter hmem hsame
      exact hkind ⟨filter, hmem, hsame⟩
    rw [h.absent hnone, h'.absent hnone]

theorem IsTaken.of_perm (h : part.IsTaken list before after) (hperm : list.Perm list') :
    part.IsTaken list' before after where
  present filter hmem := h.present filter (hperm.mem_iff.2 hmem)
  absent hnone := h.absent fun filter hmem => hnone filter (hperm.mem_iff.1 hmem)

/-- A part for the bodies of one kind has one exactly if there is a filter of the kind. -/
theorem IsTaken.isSome_iff {part : Part (Option α)} (h : part.IsTaken list before after)
    (hbefore : part.held before = .none)
    (hgiven : ∀ filter held, part.given filter = some held → held.isSome) :
    (part.held after).isSome = true ↔ ∃ filter ∈ list, filter.kind = part.kind := by
  constructor
  · intro hsome
    by_contra hnone
    rw [h.absent fun filter hmem hkind => hnone ⟨filter, hmem, hkind⟩, hbefore] at hsome
    cases hsome
  · rintro ⟨filter, hmem, hkind⟩
    exact hgiven filter _ (h.present filter hmem hkind)

end Part

/-- Every part holds what the filters of its kind give, and without any what it held before. -/
structure TakesUp (list : List RouteFilter) (before after : RuleFilters) : Prop where
  requestHeaders : Part.requestHeaders.IsTaken list before after
  responseHeaders : Part.responseHeaders.IsTaken list before after
  redirect : Part.redirect.IsTaken list before after
  rewrite : Part.rewrite.IsTaken list before after

namespace TakesUp

variable {list list' : List RouteFilter} {before mid after after' : RuleFilters}

theorem nil (filters : RuleFilters) : TakesUp [] filters filters :=
  ⟨.nil _ _, .nil _ _, .nil _ _, .nil _ _⟩

theorem cons {filter : RouteFilter} (hfirst : TakesUp [filter] before mid)
    (hrest : TakesUp list mid after) (hother : ∀ other ∈ list, other.kind ≠ filter.kind) :
    TakesUp (filter :: list) before after where
  requestHeaders := hfirst.requestHeaders.cons hrest.requestHeaders hother
  responseHeaders := hfirst.responseHeaders.cons hrest.responseHeaders hother
  redirect := hfirst.redirect.cons hrest.redirect hother
  rewrite := hfirst.rewrite.cons hrest.rewrite hother

theorem unique (h : TakesUp list before after) (h' : TakesUp list before after') :
    after = after' := by
  have hrequest : after.requestHeaders = after'.requestHeaders :=
    h.requestHeaders.held_eq h'.requestHeaders
  have hresponse : after.responseHeaders = after'.responseHeaders :=
    h.responseHeaders.held_eq h'.responseHeaders
  have hredirect : after.redirect = after'.redirect := h.redirect.held_eq h'.redirect
  have hrewrite : after.rewrite = after'.rewrite := h.rewrite.held_eq h'.rewrite
  cases after
  cases after'
  simp_all

theorem of_perm (h : TakesUp list before after) (hperm : list.Perm list') :
    TakesUp list' before after where
  requestHeaders := h.requestHeaders.of_perm hperm
  responseHeaders := h.responseHeaders.of_perm hperm
  redirect := h.redirect.of_perm hperm
  rewrite := h.rewrite.of_perm hperm

theorem isSome_redirect_iff (h : TakesUp list none after) :
    after.redirect.isSome = true ↔ ∃ filter ∈ list, filter.kind = redirectKind := by
  apply h.redirect.isSome_iff rfl
  intro filter held hheld
  obtain ⟨redirect, -, rfl⟩ := Option.map_eq_some_iff.1 hheld
  rfl

theorem isSome_rewrite_iff (h : TakesUp list none after) :
    after.rewrite.isSome = true ↔ ∃ filter ∈ list, filter.kind = rewriteKind := by
  apply h.rewrite.isSome_iff rfl
  intro filter held hheld
  obtain ⟨rewrite, -, rfl⟩ := Option.map_eq_some_iff.1 hheld
  rfl

end TakesUp

variable {route : ObjectRef} {field : String} {index : Nat} {seen : List String}
  {filters filters' : RuleFilters} {filter : RouteFilter} {list : List RouteFilter}

theorem body_eq_ok_iff {α : Type} {name : String} {value : Option α} {body : α} :
    RuleFilters.body route field name value = .ok body ↔ value = some body := by
  cases value <;> simp [RuleFilters.body]

theorem exists_body_bind_iff {α : Type} {name : String} {value : Option α}
    {take : α → RuleFilters} :
    (∃ next, (RuleFilters.body route field name value >>= fun body => pure (take body)) =
      .ok next) ↔ value.isSome = true := by
  simp only [bind_eq_ok, body_eq_ok_iff, pure_eq_ok, Option.isSome_iff_exists]
  constructor
  · rintro ⟨_, body, hbody, -⟩
    exact ⟨body, hbody⟩
  · rintro ⟨body, hbody⟩
    exact ⟨_, body, hbody, rfl⟩

/-- A filter is taken up exactly if it is of a supported kind and carries the body of its kind. -/
theorem exists_apply_iff :
    (∃ next, apply route field filters filter = .ok next) ↔ filter.IsWhole := by
  rw [RouteFilter.isWhole_iff]
  unfold apply
  split
  case h_5 hrequest hresponse hredirect hrewrite =>
    constructor
    · rintro ⟨next, hnext⟩
      cases hnext
    · rintro ⟨hsupported, -⟩
      simp only [requestHeadersKind, responseHeadersKind, redirectKind, rewriteKind, List.mem_cons,
        List.not_mem_nil, or_false] at hsupported
      exact (hsupported.elim hrequest (·.elim hresponse (·.elim hredirect hrewrite))).elim
  all_goals
    rename_i hkind
    rw [exists_body_bind_iff]
    simp [hkind, requestHeadersKind, responseHeadersKind, redirectKind, rewriteKind]

theorem takesUp_of_apply (h : apply route field filters filter = .ok filters') :
    TakesUp [filter] filters filters' := by
  unfold apply at h
  split at h
  case h_5 => cases h
  all_goals
    rename_i hkind
    obtain ⟨body, hbody, h⟩ := bind_eq_ok.1 h
    rw [body_eq_ok_iff] at hbody
    rw [pure_eq_ok] at h
    subst h
  case h_1 =>
    exact ⟨.of_kind hkind (by simp [Part.requestHeaders, hbody]),
      .of_other (by rw [hkind]; decide) rfl, .of_other (by rw [hkind]; decide) rfl,
      .of_other (by rw [hkind]; decide) rfl⟩
  case h_2 =>
    exact ⟨.of_other (by rw [hkind]; decide) rfl,
      .of_kind hkind (by simp [Part.responseHeaders, hbody]),
      .of_other (by rw [hkind]; decide) rfl, .of_other (by rw [hkind]; decide) rfl⟩
  case h_3 =>
    exact ⟨.of_other (by rw [hkind]; decide) rfl, .of_other (by rw [hkind]; decide) rfl,
      .of_kind hkind (by simp [Part.redirect, hbody]), .of_other (by rw [hkind]; decide) rfl⟩
  case h_4 =>
    exact ⟨.of_other (by rw [hkind]; decide) rfl, .of_other (by rw [hkind]; decide) rfl,
      .of_other (by rw [hkind]; decide) rfl, .of_kind hkind (by simp [Part.rewrite, hbody])⟩

/-- The filters from a place in the list on are taken up exactly if each is whole and none is of a
kind that occurs twice or before. -/
theorem exists_applyAll_iff :
    (∃ next, applyAll route field index seen filters list = .ok next) ↔
      (∀ filter ∈ list, filter.IsWhole) ∧ (list.map (·.kind)).Nodup ∧
        ∀ filter ∈ list, filter.kind ∉ seen := by
  induction list generalizing index seen filters with
  | nil => simp [applyAll]
  | cons filter list ih =>
      rw [applyAll]
      split
      · rename_i hseen
        have hseen : filter.kind ∈ seen := by simpa using hseen
        constructor
        · rintro ⟨next, hnext⟩
          cases hnext
        · rintro ⟨-, -, hnew⟩
          exact absurd hseen (hnew filter List.mem_cons_self)
      · rename_i hseen
        have hseen : filter.kind ∉ seen := by simpa using hseen
        have hnew : (∀ other ∈ list, other.kind ∉ filter.kind :: seen) ↔
            filter.kind ∉ list.map (·.kind) ∧ ∀ other ∈ list, other.kind ∉ seen := by
          simp only [List.mem_cons, not_or, List.mem_map, not_exists, not_and]
          exact forall₂_and
        calc (∃ next, _ = Except.ok next)
          _ ↔ ∃ mid, apply route s!"{field}.filters[{index}]" filters filter = .ok mid ∧
              ∃ next, applyAll route field (index + 1) (filter.kind :: seen) mid list =
                .ok next := by
            simp only [bind_eq_ok]
            constructor
            · rintro ⟨next, mid, hmid, hnext⟩
              exact ⟨mid, hmid, next, hnext⟩
            · rintro ⟨mid, hmid, next, hnext⟩
              exact ⟨next, mid, hmid, hnext⟩
          _ ↔ filter.IsWhole ∧ (∀ other ∈ list, other.IsWhole) ∧ (list.map (·.kind)).Nodup ∧
              ∀ other ∈ list, other.kind ∉ filter.kind :: seen := by
            simp only [ih, exists_and_right, exists_apply_iff]
          _ ↔ _ := by
            rw [hnew, List.forall_mem_cons, List.map_cons, List.nodup_cons, List.forall_mem_cons]
            tauto

theorem takesUp_of_applyAll (h : applyAll route field index seen filters list = .ok filters') :
    TakesUp list filters filters' := by
  induction list generalizing index seen filters with
  | nil =>
      cases h
      exact .nil _
  | cons filter list ih =>
      rw [applyAll] at h
      split at h
      · cases h
      · obtain ⟨mid, hmid, hrest⟩ := bind_eq_ok.1 h
        obtain ⟨-, -, hnew⟩ := exists_applyAll_iff.1 ⟨filters', hrest⟩
        refine (takesUp_of_apply hmid).cons (ih hrest) ?_
        intro other hother hsame
        exact hnew other hother (hsame ▸ List.mem_cons_self)

theorem read_eq_ok_iff_applyAll :
    read route field list = .ok filters ↔
      applyAll route field 0 [] none list = .ok filters ∧
        ¬ (filters.redirect.isSome = true ∧ filters.rewrite.isSome = true) := by
  rw [read, bind_eq_ok]
  constructor
  · rintro ⟨applied, happlied, h⟩
    split at h
    · cases h
    · rename_i hboth
      rw [pure_eq_ok] at h
      subst h
      rw [Bool.and_eq_true] at hboth
      exact ⟨happlied, hboth⟩
  · rintro ⟨happlied, hboth⟩
    refine ⟨filters, happlied, ?_⟩
    rw [if_neg (by rwa [Bool.and_eq_true])]
    rfl

theorem areReadable_of_read (h : read route field list = .ok filters) :
    RouteFilter.AreReadable list ∧ TakesUp list none filters := by
  obtain ⟨happlied, hboth⟩ := read_eq_ok_iff_applyAll.1 h
  have htakes := takesUp_of_applyAll happlied
  obtain ⟨hwhole, hdistinct, -⟩ := exists_applyAll_iff.1 ⟨filters, happlied⟩
  rw [htakes.isSome_redirect_iff, htakes.isSome_rewrite_iff] at hboth
  exact ⟨⟨hwhole, hdistinct, hboth⟩, htakes⟩

theorem exists_read_of_areReadable (h : RouteFilter.AreReadable list) :
    ∃ filters, read route field list = .ok filters := by
  obtain ⟨filters, happlied⟩ : ∃ filters, applyAll route field 0 [] none list = .ok filters :=
    exists_applyAll_iff.2 ⟨h.whole, h.distinct, fun _ _ => List.not_mem_nil⟩
  have htakes := takesUp_of_applyAll happlied
  refine ⟨filters, read_eq_ok_iff_applyAll.2 ⟨happlied, ?_⟩⟩
  rw [htakes.isSome_redirect_iff, htakes.isSome_rewrite_iff]
  exact h.exclusive

/-- Whether a list is read, and what is read of it, is told by what is in it. -/
theorem read_eq_ok_iff :
    read route field list = .ok filters ↔
      RouteFilter.AreReadable list ∧ TakesUp list none filters := by
  constructor
  · exact areReadable_of_read
  · rintro ⟨hreadable, htakes⟩
    obtain ⟨found, hfound⟩ : ∃ found, read route field list = .ok found :=
      exists_read_of_areReadable hreadable
    rw [hfound, htakes.unique (areReadable_of_read hfound).2]

/-- A rule redirects when it has a redirecting filter and not otherwise. -/
theorem isSome_redirect_of_read (h : read route field list = .ok filters) :
    filters.redirect.isSome = list.any (·.kind == redirectKind) := by
  rw [Bool.eq_iff_iff, (areReadable_of_read h).2.isSome_redirect_iff, List.any_eq_true]
  simp only [beq_iff_eq]

/-- A rule without a redirecting filter does not redirect. -/
theorem redirect_of_read (hkind : ∀ filter ∈ list, filter.kind ≠ redirectKind)
    (h : read route field list = .ok filters) : filters.redirect = Option.none := by
  have hnone : list.any (·.kind == redirectKind) = false := by
    rw [List.any_eq_false]
    intro filter hfilter
    simpa using hkind filter hfilter
  have hredirect := isSome_redirect_of_read h
  rw [hnone, Option.isSome_eq_false_iff, Option.isNone_iff_eq_none] at hredirect
  exact hredirect

/-- What reading a list of filters comes to: which lists are accepted, what is read of them, and
that their order makes no difference. -/
structure ReadsExactly (route : ObjectRef) (field : String) (list : List RouteFilter) : Prop where
  accepted : (∃ filters, read route field list = .ok filters) ↔ RouteFilter.AreReadable list
  /-- What no filter is for is left as it is in a rule without filters. -/
  taken : ∀ filters, read route field list = .ok filters → TakesUp list none filters
  reordered : ∀ list', list.Perm list' → ∀ filters,
    read route field list' = .ok filters ↔ read route field list = .ok filters

end RuleFilters

theorem RouteFilter.AreReadable.of_perm {list list' : List RouteFilter}
    (h : RouteFilter.AreReadable list) (hperm : list.Perm list') :
    RouteFilter.AreReadable list' where
  whole filter hmem := h.whole filter (hperm.mem_iff.2 hmem)
  distinct := (hperm.map _).nodup_iff.1 h.distinct
  exclusive := by
    simp only [← hperm.mem_iff]
    exact h.exclusive

/-- Filters are read in any order, none is dropped, and none is made up. -/
theorem RuleFilters.readsExactly (route : ObjectRef) (field : String) (list : List RouteFilter) :
    ReadsExactly route field list where
  accepted := ⟨fun ⟨_, h⟩ => (areReadable_of_read h).1, exists_read_of_areReadable⟩
  taken _ h := (areReadable_of_read h).2
  reordered := by
    intro list' hperm filters
    rw [read_eq_ok_iff, read_eq_ok_iff]
    constructor
    · rintro ⟨hreadable, htakes⟩
      exact ⟨hreadable.of_perm hperm.symm, htakes.of_perm hperm.symm⟩
    · rintro ⟨hreadable, htakes⟩
      exact ⟨hreadable.of_perm hperm, htakes.of_perm hperm⟩

end GatewayCompiler
