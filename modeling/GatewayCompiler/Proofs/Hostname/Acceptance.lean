import GatewayCompiler.Proofs.Hostname
import Mathlib.Data.List.Infix
import Mathlib.Data.List.Sort

/-!
# Hosts that a listener and a route share

The hosts that two patterns accept are nested or apart, since of two endings of one host one is an
ending of the other.  So the narrower of two patterns, or neither, tells the hosts that both accept,
and the names that a listener and a route share accept the hosts that listener and route accept.
-/

namespace GatewayCompiler.Hostname

variable {a b host pattern : String} {suffix : List Char}

/-- Whether a pattern accepts a host: `*.suffix` every longer host with that ending, any other
pattern only itself. -/
def Accepts (pattern host : String) : Prop :=
  match pattern.toList with
  | '*' :: '.' :: suffix =>
    ('.' :: suffix).length < host.toList.length ∧ '.' :: suffix <:+ host.toList
  | _ => host = pattern

/-- Whoever names no host accepts every host. -/
def AcceptsAny (names : List String) (host : String) : Prop :=
  names = [] ∨ ∃ pattern ∈ names, Accepts pattern host

/-- A listener accepts what its hostname does, and every host when that is absent or empty. -/
def ListenerAccepts (listener : Option String) (host : String) : Prop :=
  ∀ pattern, listener = some pattern → pattern = "" ∨ Accepts pattern host

/-- The names tell the hosts that a listener and a route both accept. -/
structure IsIntersection (listener : Option String) (route : List String)
    (shared : Option (List String)) : Prop where
  accepts : ∀ names, shared = some names → ∀ host,
    AcceptsAny names host ↔ ListenerAccepts listener host ∧ AcceptsAny route host
  disjoint : shared = none ↔ ∀ host, ¬ (ListenerAccepts listener host ∧ AcceptsAny route host)
  everything : shared = some [] →
    (∀ host, ListenerAccepts listener host) ∧ ∀ host, AcceptsAny route host
  ascending : ∀ names, shared = some names → names.Pairwise (· < ·)

def IsWildcard (pattern : String) (suffix : List Char) : Prop :=
  pattern.toList = '*' :: '.' :: suffix

theorem IsWildcard.accepts_iff (h : IsWildcard pattern suffix) :
    Accepts pattern host ↔
      ('.' :: suffix).length < host.toList.length ∧ '.' :: suffix <:+ host.toList := by
  rw [Accepts, h]
  exact Iff.rfl

theorem isWildcard_or_exact (pattern : String) :
    (∃ suffix, IsWildcard pattern suffix) ∨ ∀ host, Accepts pattern host ↔ host = pattern := by
  by_cases h : ∃ suffix, IsWildcard pattern suffix
  · exact .inl h
  · refine .inr fun host => ?_
    unfold Accepts
    split
    · rename_i suffix hpattern
      exact absurd ⟨suffix, hpattern⟩ h
    · rfl

/-- No pattern is void: each accepts itself. -/
theorem accepts_self (pattern : String) : Accepts pattern pattern := by
  obtain ⟨suffix, h⟩ | h := isWildcard_or_exact pattern
  · rw [h.accepts_iff, h]
    exact ⟨Nat.lt_succ_self _, List.suffix_cons '*' _⟩
  · exact (h pattern).2 rfl

/-- A wildcard covers what it accepts, be that a host or a pattern. -/
theorem covers_iff : covers a b = true ↔ ∃ suffix, IsWildcard a suffix ∧ Accepts a b := by
  unfold covers
  split
  · rename_i suffix ha
    have hwildcard : IsWildcard a suffix := ha
    rw [Bool.and_eq_true, decide_eq_true_eq, List.isSuffixOf_iff_suffix, ← List.length_cons,
      ← hwildcard.accepts_iff]
    exact ⟨fun h => ⟨suffix, hwildcard, h⟩, fun ⟨_, _, h⟩ => h⟩
  · rename_i hexact
    constructor
    · intro h
      cases h
    · rintro ⟨suffix, ha, _⟩
      exact absurd ha (hexact suffix)

/-- A wildcard accepts another exactly when its ending is one of the other's. -/
theorem IsWildcard.accepts_wildcard_iff {inner : List Char} (ha : IsWildcard a suffix)
    (hb : IsWildcard b inner) : Accepts a b ↔ '.' :: suffix <:+ '.' :: inner := by
  rw [ha.accepts_iff, hb]
  constructor
  · rintro ⟨hlength, hsuffix⟩
    exact List.suffix_of_suffix_length_le hsuffix (List.suffix_cons '*' _)
      (Nat.lt_succ_iff.1 hlength)
  · intro h
    exact ⟨Nat.lt_succ_of_le h.length_le, h.trans (List.suffix_cons '*' _)⟩

/-- A pattern accepts all that a pattern it covers does. -/
theorem accepts_of_covers (hcovers : covers a b = true) (hhost : Accepts b host) :
    Accepts a host := by
  obtain ⟨suffix, ha, hb⟩ := covers_iff.1 hcovers
  obtain ⟨inner, hinner⟩ | hexact := isWildcard_or_exact b
  · have hnested := (ha.accepts_wildcard_iff hinner).1 hb
    rw [hinner.accepts_iff] at hhost
    rw [ha.accepts_iff]
    exact ⟨hnested.length_le.trans_lt hhost.1, hnested.trans hhost.2⟩
  · rw [(hexact host).1 hhost]
    exact hb

/-- Of two patterns that accept one host, one covers the other. -/
theorem eq_or_covers_of_accepts (ha : Accepts a host) (hb : Accepts b host) :
    a = b ∨ covers a b = true ∨ covers b a = true := by
  obtain ⟨suffix, hsuffix⟩ | hexact := isWildcard_or_exact a
  · obtain ⟨inner, hinner⟩ | hexact := isWildcard_or_exact b
    · obtain h | h := List.suffix_or_suffix_of_suffix
        (hsuffix.accepts_iff.1 ha).2 (hinner.accepts_iff.1 hb).2
      · exact .inr (.inl (covers_iff.2 ⟨suffix, hsuffix,
          (hsuffix.accepts_wildcard_iff hinner).2 h⟩))
      · exact .inr (.inr (covers_iff.2 ⟨inner, hinner,
          (hinner.accepts_wildcard_iff hsuffix).2 h⟩))
    · rw [(hexact host).1 hb] at ha
      exact .inr (.inl (covers_iff.2 ⟨suffix, hsuffix, ha⟩))
  · rw [(hexact host).1 ha] at hb
    obtain ⟨inner, hinner⟩ | hexact := isWildcard_or_exact b
    · exact .inr (.inr (covers_iff.2 ⟨inner, hinner, hb⟩))
    · exact .inl ((hexact a).1 hb)

/-- The intersection of two patterns accepts the hosts that both accept; where there is none, there
are no such hosts. -/
theorem exists_intersect?_iff :
    (∃ shared, intersect? a b = some shared ∧ Accepts shared host) ↔
      Accepts a host ∧ Accepts b host := by
  unfold intersect?
  split_ifs with heq hab hba
  · simp [heq]
  · simp only [Option.some.injEq, exists_eq_left', iff_and_self]
    exact accepts_of_covers hab
  · simp only [Option.some.injEq, exists_eq_left', iff_self_and]
    exact accepts_of_covers hba
  · constructor
    · rintro ⟨shared, hnone, _⟩
      cases hnone
    · rintro ⟨ha, hb⟩
      obtain h | h | h := eq_or_covers_of_accepts ha hb
      · exact absurd h heq
      · exact absurd h hab
      · exact absurd h hba

theorem mem_foldl_insertName {name : String} (names acc : List String) :
    name ∈ names.foldl (fun acc name => insertName name acc) acc ↔ name ∈ acc ∨ name ∈ names := by
  induction names generalizing acc with
  | nil => simp
  | cons head names ih =>
      rw [List.foldl_cons, ih, mem_insertName, List.mem_cons, or_assoc, or_left_comm]

theorem mem_ascending {name : String} {names : List String} :
    name ∈ ascending names ↔ name ∈ names := by
  rw [ascending, mem_foldl_insertName, List.mem_nil_iff, false_or]

/-- In ascending order, names are told by which they are. -/
theorem ascending_congr {names names' : List String} (h : ∀ name, name ∈ names ↔ name ∈ names') :
    ascending names = ascending names' := by
  apply (pairwise_ascending names).eq_of_mem_iff (pairwise_ascending names')
  intro name
  rw [mem_ascending, mem_ascending, h]

theorem nonEmpty?_eq_none_iff {names : List String} : nonEmpty? names = none ↔ names = [] := by
  cases names <;> simp [nonEmpty?]

theorem listenerAccepts_iff {listener : Option String} :
    ListenerAccepts listener host ↔
      ∀ pattern, listener.filter (· ≠ "") = some pattern → Accepts pattern host := by
  constructor
  · intro h pattern hpattern
    obtain ⟨hlistener, hne⟩ := Option.filter_eq_some_iff.1 hpattern
    exact (h pattern hlistener).resolve_left (of_decide_eq_true hne)
  · intro h pattern hlistener
    by_cases hempty : pattern = ""
    · exact .inl hempty
    · exact .inr (h pattern (Option.filter_eq_some_iff.2 ⟨hlistener, decide_eq_true hempty⟩))

/-- The narrowed patterns of a route accept what the route does of the hosts of one pattern. -/
theorem exists_accepts_filterMap {names : List String} :
    (∃ shared ∈ ascending (names.filterMap (intersect? pattern)), Accepts shared host) ↔
      Accepts pattern host ∧ ∃ name ∈ names, Accepts name host := by
  simp only [mem_ascending, List.mem_filterMap]
  constructor
  · rintro ⟨shared, ⟨name, hname, hshared⟩, hhost⟩
    have hboth := exists_intersect?_iff.1 ⟨shared, hshared, hhost⟩
    exact ⟨hboth.1, name, hname, hboth.2⟩
  · rintro ⟨hpattern, name, hname, hhost⟩
    obtain ⟨shared, hshared, haccepts⟩ := exists_intersect?_iff.2 ⟨hpattern, hhost⟩
    exact ⟨shared, ⟨name, hname, hshared⟩, haccepts⟩

theorem acceptsAny_iff_of_ne_nil {names : List String} (h : names ≠ []) :
    AcceptsAny names host ↔ ∃ pattern ∈ names, Accepts pattern host :=
  ⟨fun hany => hany.resolve_left h, .inr⟩

theorem exists_acceptsAny (names : List String) : ∃ host, AcceptsAny names host := by
  cases names with
  | nil => exact ⟨"", .inl rfl⟩
  | cons name names => exact ⟨name, .inr ⟨name, List.mem_cons_self, accepts_self name⟩⟩

theorem ascending_ne_nil {names : List String} (h : names ≠ []) : ascending names ≠ [] := by
  obtain ⟨name, hname⟩ := List.exists_mem_of_ne_nil names h
  exact List.ne_nil_of_mem (mem_ascending.2 hname)

theorem intersection?_congr {listener : Option String} {route route' : List String}
    (h : ∀ name, name ∈ route ↔ name ∈ route') :
    intersection? listener route = intersection? listener route' := by
  cases route with
  | nil =>
      have hnil : route' = [] := List.eq_nil_iff_forall_not_mem.2 fun name hname => by
        simpa using (h name).2 hname
      rw [hnil]
  | cons first rest =>
      cases route' with
      | nil => exact absurd ((h first).1 List.mem_cons_self) List.not_mem_nil
      | cons first' rest' =>
          unfold intersection?
          cases listener.filter (· ≠ "") with
          | none => exact congrArg some (ascending_congr h)
          | some pattern =>
              refine congrArg nonEmpty? (ascending_congr fun name => ?_)
              simp only [List.mem_filterMap, h]

section Intersection

variable {listener : Option String} {route names : List String}

theorem acceptsAny_iff_of_intersection? (h : intersection? listener route = some names)
    (host : String) :
    AcceptsAny names host ↔ ListenerAccepts listener host ∧ AcceptsAny route host := by
  rw [listenerAccepts_iff]
  unfold intersection? at h
  generalize listener.filter (· ≠ "") = hostname at h ⊢
  split at h
  · cases h
    simp [AcceptsAny]
  · rename_i hroute
    cases h
    rw [acceptsAny_iff_of_ne_nil (ascending_ne_nil hroute), acceptsAny_iff_of_ne_nil hroute]
    simp [mem_ascending]
  · cases h
    simp [AcceptsAny]
  · rename_i pattern hroute
    have hshared := eq_of_nonEmpty?_eq_some h
    have hne : names ≠ [] := by
      rintro rfl
      rw [hshared] at h
      cases h
    rw [acceptsAny_iff_of_ne_nil hne, acceptsAny_iff_of_ne_nil hroute, ← hshared,
      exists_accepts_filterMap]
    simp

theorem not_accepts_of_intersection?_eq_none (h : intersection? listener route = none)
    (host : String) : ¬ (ListenerAccepts listener host ∧ AcceptsAny route host) := by
  rw [listenerAccepts_iff]
  unfold intersection? at h
  generalize listener.filter (· ≠ "") = hostname at h ⊢
  rintro ⟨haccepts, hany⟩
  split at h
  · cases h
  · cases h
  · cases h
  · rename_i pattern hroute
    obtain ⟨shared, hmem, _⟩ := exists_accepts_filterMap.2
      ⟨haccepts pattern rfl, (acceptsAny_iff_of_ne_nil hroute).1 hany⟩
    rw [nonEmpty?_eq_none_iff.1 h] at hmem
    cases hmem

theorem accepts_of_intersection?_eq_nil (h : intersection? listener route = some []) :
    (∀ host, ListenerAccepts listener host) ∧ ∀ host, AcceptsAny route host := by
  simp only [listenerAccepts_iff]
  unfold intersection? at h
  generalize listener.filter (· ≠ "") = hostname at h ⊢
  split at h
  · exact ⟨fun _ _ hpattern => (nomatch hpattern), fun _ => .inl rfl⟩
  · rename_i hroute
    exact absurd (Option.some.inj h) (ascending_ne_nil hroute)
  · cases h
  · rw [eq_of_nonEmpty?_eq_some h] at h
    cases h

/-- The hosts that a listener and a route share are those that both accept, and how the route lists
its hostnames does not matter. -/
theorem isIntersection_intersection? (listener : Option String) (route : List String) :
    IsIntersection listener route (intersection? listener route) ∧
      ∀ route' : List String, (∀ name, name ∈ route ↔ name ∈ route') →
        intersection? listener route' = intersection? listener route := by
  refine ⟨⟨fun names h => acceptsAny_iff_of_intersection? h, ?_,
    accepts_of_intersection?_eq_nil, fun names h => pairwise_of_intersection? h⟩, ?_⟩
  · constructor
    · exact not_accepts_of_intersection?_eq_none
    · intro hdisjoint
      rw [Option.eq_none_iff_forall_ne_some]
      intro names hnames
      obtain ⟨host, hhost⟩ := exists_acceptsAny names
      exact hdisjoint host ((acceptsAny_iff_of_intersection? hnames host).1 hhost)
  · intro route' h
    exact (intersection?_congr h).symm

end Intersection

end GatewayCompiler.Hostname
