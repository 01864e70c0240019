import GatewayCompiler.Proofs.Matching.Rewrite

/-!
# Texts that rewrites put into paths

A rewrite puts a text in place of the path that it matches, or of a prefix of it.  The text is read
as a substitution, in which a backslash has a meaning of its own: it is put in as it is exactly when
there is no backslash in it.
-/

namespace GatewayCompiler

namespace Regex

/-! Where matches end -/

section Run

variable {regex first second : Regex} {accepted : CharClass} {place next : Place}

theorem mem_run_of_best? (h : regex.best? place = some next) : next ∈ regex.run place :=
  List.mem_of_mem_head? h

theorem mem_run_append :
    next ∈ (append first second).run place ↔ ∃ mid ∈ first.run place, next ∈ second.run mid :=
  List.mem_flatMap

theorem mem_run_one (h : next ∈ (one accepted).run place) :
    ∃ c ahead, place.ahead = c :: ahead ∧ accepted.accepts c = true ∧
      next = ⟨c :: place.passed, ahead, place.group⟩ := by
  simp only [run] at h
  split at h
  · cases h
  · next c ahead hahead =>
    split_ifs at h with haccepts
    · exact ⟨c, ahead, hahead, haccepts, List.mem_singleton.1 h⟩
    · cases h

theorem mem_run_finish (h : next ∈ finish.run place) : next = place ∧ place.ahead = [] := by
  simp only [run] at h
  split_ifs at h with hahead
  · exact ⟨List.mem_singleton.1 h, hahead⟩
  · cases h

theorem mem_run_concat_finish (h : next ∈ (concat [finish]).run place) :
    next = place ∧ place.ahead = [] := by
  obtain ⟨mid, hmid, hnext⟩ := mem_run_append.1 h
  obtain ⟨rfl, hahead⟩ := mem_run_finish hmid
  exact ⟨List.mem_singleton.1 hnext, hahead⟩

/-- A repetition leaves the group as it is. -/
theorem group_of_mem_manyFrom {matched : Option (List Char)} {passed ahead : List Char}
    (h : next ∈ manyFrom accepted matched passed ahead) : next.group = matched := by
  induction ahead generalizing passed with
  | nil => rw [List.mem_singleton.1 h]
  | cons c ahead ih =>
      rw [manyFrom] at h
      split_ifs at h
      · rcases List.mem_append.1 h with hfurther | hhere
        · exact ih hfurther
        · rw [List.mem_singleton.1 hhere]
      · rw [List.mem_singleton.1 h]

/-- The group takes all that stands behind a prefix that is replaced: nothing, or a slash and what
follows. -/
theorem group_of_mem_run_restOrNothing (h : next ∈ (concat restOrNothing).run place)
    (hgroup : place.group = none) :
    next.ahead = [] ∧ next.group.getD [] = place.ahead ∧
      (place.ahead = [] ∨ place.ahead.head? = some '/') := by
  obtain ⟨mid, hmid, hnext⟩ := mem_run_append.1 h
  obtain ⟨rfl, hend⟩ := mem_run_concat_finish hnext
  refine ⟨hend, ?_⟩
  rw [run_optional, List.mem_append, List.mem_singleton] at hmid
  obtain htaken | rfl := hmid
  · obtain ⟨inner, hinner, rfl⟩ := List.mem_map.1 htaken
    obtain ⟨slash, hslash, -⟩ := mem_run_append.1 hinner
    obtain ⟨c, rest, hahead, haccepts, -⟩ := mem_run_one hslash
    obtain rfl : c = '/' := by simpa [CharClass.accepts] using haccepts
    have hend : inner.ahead = [] := hend
    refine ⟨?_, .inr (by rw [hahead]; rfl)⟩
    simp [Place.upTo, hend]
  · rw [hgroup, hend]
    exact ⟨rfl, .inl rfl⟩

end Run

/-! What is found from the start -/

theorem searchFrom_start_of_ne_nil (regex : Regex) {passed : List Char} (h : passed ≠ [])
    (ahead : List Char) : (append start regex).searchFrom passed ahead = none := by
  have hnone (passed ahead : List Char) (h : passed ≠ []) :
      (append start regex).best? ⟨passed, ahead, none⟩ = none := by
    rw [best?, run_append, run, if_neg h]
    rfl
  induction ahead generalizing passed with
  | nil => simp only [searchFrom, hnone passed [] h]
  | cons c ahead ih => simp only [searchFrom, hnone passed _ h, ih (List.cons_ne_nil c passed)]

/-- Characters match only a text that starts with them. -/
theorem exists_append_of_mem_run_literals {text : List Char} {regex : Regex} {place next : Place}
    (h : next ∈ ((literals text).foldr append regex).run place) :
    ∃ ahead, place.ahead = text ++ ahead := by
  induction text generalizing place with
  | nil => exact ⟨place.ahead, rfl⟩
  | cons c text ih =>
      obtain ⟨mid, hmid, hnext⟩ := mem_run_append.1 h
      obtain ⟨d, rest, hahead, haccepts, rfl⟩ := mem_run_one hmid
      obtain rfl : d = c := by simpa [CharClass.accepts] using haccepts
      obtain ⟨ahead, hrest⟩ := ih hnext
      have hrest : rest = text ++ ahead := hrest
      exact ⟨ahead, by rw [hahead, hrest, List.cons_append]⟩

/-- A pattern that starts with a text is found where the text is, and what is behind it fits. -/
theorem exists_best?_of_search_anchored {text path : List Char} {parts : List Regex} {found : Found}
    (h : (concat (start :: (literals text ++ parts))).search path = some found) :
    ∃ ahead next, path = text ++ ahead ∧
      (concat parts).best? ⟨text.reverse, ahead, none⟩ = some next ∧
      found = ⟨[], (⟨[], path, none⟩ : Place).upTo next, next.group, next.ahead⟩ := by
  have hstart : (concat (start :: (literals text ++ parts))).best? ⟨[], path, none⟩ =
      ((literals text).foldr append (concat parts)).best? ⟨[], path, none⟩ := by
    rw [concat, List.foldr_cons, List.foldr_append, best?, run_append, run, if_pos rfl,
      List.flatMap_singleton]
    rfl
  cases hbest : ((literals text).foldr append (concat parts)).best? ⟨[], path, none⟩ with
  | none =>
      rw [search, searchFrom.eq_def] at h
      simp only [hstart, hbest] at h
      cases path with
      | nil => cases h
      | cons c path =>
          cases (searchFrom_start_of_ne_nil _ (List.cons_ne_nil c []) path).symm.trans h
  | some next =>
      rw [search_of_best? (hstart.trans hbest)] at h
      obtain ⟨ahead, hpath⟩ := exists_append_of_mem_run_literals (mem_run_of_best? hbest)
      have hpath : path = text ++ ahead := hpath
      refine ⟨ahead, next, hpath, ?_, (Option.some.inj h).symm⟩
      rwa [hpath, best?_literals, List.append_nil] at hbest

/-- The whole path is matched, and the group has taken its rest. -/
structure Found.IsWhole (found : Found) (path rest : List Char) : Prop where
  before : found.before = []
  whole : found.whole = path
  group : found.group.getD [] = rest
  after : found.after = []

theorem isWhole_of_place {path rest : List Char} {next : Place} (hahead : next.ahead = [])
    (hgroup : next.group.getD [] = rest) :
    Found.IsWhole ⟨[], (⟨[], path, none⟩ : Place).upTo next, next.group, next.ahead⟩ path rest where
  before := rfl
  whole := by simp [Place.upTo, hahead]
  group := hgroup
  after := hahead

theorem exists_rest_of_search {text path : List Char} {found : Found}
    (h : (concat (start :: (literals text ++ restOrNothing))).search path = some found) :
    ∃ rest, path = text ++ rest ∧ (rest = [] ∨ rest.head? = some '/') ∧
      found.IsWhole path rest := by
  obtain ⟨rest, next, hpath, hbest, rfl⟩ := exists_best?_of_search_anchored h
  obtain ⟨hahead, hgroup, hslash⟩ := group_of_mem_run_restOrNothing (mem_run_of_best? hbest) rfl
  exact ⟨rest, hpath, hslash, isWhole_of_place hahead hgroup⟩

/-- The expression of whole paths. -/
theorem parse?_wholePath :
    parse? "^/.*$" = some (concat (start :: (literals ['/'] ++ [many .any, finish]))) := by
  decide +kernel

theorem isWhole_of_search {path : List Char} {found : Found}
    (h : (concat (start :: (literals ['/'] ++ [many .any, finish]))).search path = some found) :
    path.head? = some '/' ∧ found.IsWhole path [] := by
  obtain ⟨rest, next, hpath, hbest, rfl⟩ := exists_best?_of_search_anchored h
  refine ⟨by rw [hpath]; rfl, ?_⟩
  obtain ⟨mid, hmid, hnext⟩ := mem_run_append.1 (mem_run_of_best? hbest)
  obtain ⟨rfl, hend⟩ := mem_run_concat_finish hnext
  refine isWhole_of_place hend ?_
  rw [group_of_mem_manyFrom hmid]
  rfl

/-! What a substitution makes of a text -/

/-- A text that starts with no slash does not start with a text that is empty or starts with one,
unless it is empty. -/
theorem eq_nil_of_append_eq {text start rest others : List Char}
    (htext : text = [] ∨ text.head? = some '/') (hstart : start ≠ []) (hslash : '/' ∉ start)
    (h : text ++ rest = start ++ others) : text = [] := by
  obtain hnil | htext := htext
  · exact hnil
  · obtain ⟨text, rfl⟩ := List.head?_eq_some_iff.1 htext
    obtain ⟨c, start, rfl⟩ := List.exists_cons_of_ne_nil hstart
    obtain ⟨rfl, -⟩ := List.cons.inj h
    exact absurd List.mem_cons_self hslash

/-- What stands behind a text in a substitution, nothing or the group, comes to what stands behind
the match of a prefix: nothing, or a slash and what follows. -/
structure Found.Leaves (found : Found) (tail rest : List Char) : Prop where
  group : found.group.getD [] = rest
  slash : rest = [] ∨ rest.head? = some '/'
  tail_eq : tail = [] ∧ rest = [] ∨ tail = ['\\', '1']

theorem Found.Leaves.expand?_tail {found : Found} {tail rest : List Char}
    (h : found.Leaves tail rest) : expand? found tail = some rest := by
  obtain ⟨rfl, rfl⟩ | rfl := h.tail_eq
  · rfl
  · simp [expand?, h.group]

/-- A mark in place of which a path or nothing is put does not stand for itself, if what follows it
does not come to itself behind other characters. -/
theorem map_append_ne {expanded : Option (List Char)} {inserted start text rest : List Char}
    {mark : Char} (hinserted : inserted = [] ∨ inserted.head? = some '/') (hslash : '/' ∉ start)
    (hmark : mark ≠ '/')
    (h : ∀ before, '/' ∉ before → before ≠ [] → expanded ≠ some (before ++ text ++ rest)) :
    expanded.map (inserted ++ ·) ≠ some (start ++ '\\' :: mark :: text ++ rest) := by
  have hbefore : '/' ∉ start ++ ['\\', mark] := by simp [hslash, Ne.symm hmark]
  have hne : start ++ ['\\', mark] ≠ [] := by simp
  intro hexpanded
  obtain ⟨following, hfollowing, heq⟩ := Option.map_eq_some_iff.1 hexpanded
  have heq : inserted ++ following = (start ++ ['\\', mark]) ++ (text ++ rest) := by
    simpa using heq
  rw [eq_nil_of_append_eq hinserted hne hbefore heq, List.nil_append, ← List.append_assoc] at heq
  exact h _ hbefore hne (heq ▸ hfollowing)

/-- A backslash at the end is lost, or makes the group behind it a backslash and a digit. -/
theorem Found.Leaves.expand?_backslash_ne {found : Found} {tail rest start : List Char}
    (h : found.Leaves tail rest) :
    expand? found (['\\'] ++ tail) ≠ some (start ++ ['\\'] ++ rest) := by
  obtain ⟨rfl, rfl⟩ | htail := h.tail_eq
  · simp [expand?]
  · have hexpand : expand? found (['\\'] ++ tail) = some ['\\', '1'] := by simp [htail, expand?]
    rw [hexpand]
    intro heq
    have heq := Option.some.inj heq
    cases start with
    | nil =>
        obtain rfl : ['1'] = rest := by simpa using heq
        exact absurd h.slash (by decide)
    | cons c start =>
        have hmem : '\\' ∈ ['1'] := by
          rw [(List.cons.inj heq).2]
          simp
        exact absurd hmem (by decide)

/-- A text with a backslash does not stand for itself.  A backslash is either lost or stands for
what starts with a slash, so behind the first one the expansion lags by some characters without a
slash, `start`, which it never makes up for. -/
theorem Found.Leaves.expand?_ne {found : Found} {tail rest : List Char} (h : found.Leaves tail rest)
    (hwhole : found.whole = [] ∨ found.whole.head? = some '/') (text : List Char)
    {start : List Char} (hslash : '/' ∉ start) (hstart : start ≠ [] ∨ '\\' ∈ text) :
    expand? found (text ++ tail) ≠ some (start ++ text ++ rest) := by
  induction text using expand?.induct generalizing start with
  | case1 =>
      have hne : start ≠ [] := hstart.resolve_right List.not_mem_nil
      rw [List.nil_append, h.expand?_tail, List.append_nil]
      intro heq
      exact hne (List.self_eq_append_left.1 (Option.some.inj heq))
  | case2 text ih =>
      have hfollowing := map_append_ne hwhole hslash (by decide : '0' ≠ '/')
        fun before hslash hne => @ih before hslash (.inl hne)
      simpa [expand?] using hfollowing
  | case3 text ih =>
      have hgroup : found.group.getD [] = [] ∨ (found.group.getD []).head? = some '/' :=
        h.group.symm ▸ h.slash
      have hfollowing := map_append_ne hgroup hslash (by decide : '1' ≠ '/')
        fun before hslash hne => @ih before hslash (.inl hne)
      simpa [expand?] using hfollowing
  | case4 text ih =>
      intro hexpanded
      rw [List.cons_append, List.cons_append, expand?] at hexpanded
      obtain ⟨following, hfollowing, heq⟩ := Option.map_eq_some_iff.1 hexpanded
      cases start with
      | nil =>
          obtain rfl : following = '\\' :: text ++ rest := by simpa using heq
          exact @ih ['\\'] (by decide) (.inl (by simp)) hfollowing
      | cons c start =>
          obtain ⟨-, rfl⟩ := List.cons.inj heq
          refine @ih (start ++ ['\\', '\\']) ?_ (.inl (by simp)) (by simpa using hfollowing)
          simpa using (not_or.1 (mt List.mem_cons.2 hslash)).2
  | case5 text hzero hone hbackslash =>
      cases text with
      | nil => exact h.expand?_backslash_ne
      | cons c text =>
          have hnone : expand? found ('\\' :: c :: text ++ tail) = none := by
            rw [List.cons_append, expand?]
            all_goals simp_all
          rw [hnone]
          exact (Option.some_ne_none _).symm
  | case6 c text _ _ _ hc ih =>
      intro hexpanded
      have hsingle : '\\' ∉ [c] := by simpa using Ne.symm hc
      rw [List.cons_append, ← List.singleton_append, expand?_append found hsingle] at hexpanded
      obtain ⟨following, hfollowing, heq⟩ := Option.map_eq_some_iff.1 hexpanded
      cases start with
      | nil =>
          obtain rfl : following = text ++ rest := by simpa using heq
          have hmem : '\\' ∈ text := by simpa [Ne.symm hc] using hstart
          exact @ih [] (by decide) (.inr hmem) hfollowing
      | cons d start =>
          obtain ⟨rfl, rfl⟩ := List.cons.inj heq
          refine @ih (start ++ [c]) ?_ (.inl (by simp)) (by simpa using hfollowing)
          simpa [or_comm] using hslash

/-- A text without backslashes stands for itself, before what stands behind it. -/
theorem Found.Leaves.expand?_eq {found : Found} {tail rest : List Char}
    (h : found.Leaves tail rest) {text : List Char} (htext : '\\' ∉ text) :
    expand? found (text ++ tail) = some (text ++ rest) := by
  rw [expand?_append found htext, h.expand?_tail, Option.map_some]

end Regex

namespace Envoy.RegexRewrite

/-- What the pattern of a rewrite matches in a path. -/
def found? (rewrite : RegexRewrite) (path : String) : Option Regex.Found := do
  let pattern ← rewrite.pattern
  let regex ← Regex.parse? pattern
  regex.search path.toList

variable {rewrite : RegexRewrite} {path : String} {found : Regex.Found} {rest : List Char}

theorem found?_of_parse {pattern substitution : String} {regex : Regex}
    (hparse : Regex.parse? pattern = some regex) (path : String) :
    (RegexRewrite.mk (some pattern) substitution).found? path = regex.search path.toList := by
  rw [found?, Option.bind_eq_bind, Option.bind_some, hparse, Option.bind_eq_bind, Option.bind_some]

theorem rewritten?_eq_bind (rewrite : RegexRewrite) (path : String) :
    rewrite.rewritten? path = (rewrite.found? path).bind fun found =>
      (Regex.expand? found rewrite.substitution.toList).map fun inserted =>
        String.ofList (found.before ++ inserted ++ found.after) := by
  simp only [rewritten?, found?, Option.bind_eq_bind, Option.bind_assoc, Option.map_eq_bind]
  rfl

/-- Where the whole path is matched, the path becomes what the substitution comes to. -/
theorem rewritten?_of_isWhole (hfound : rewrite.found? path = some found)
    (hwhole : found.IsWhole path.toList rest) :
    rewrite.rewritten? path =
      (Regex.expand? found rewrite.substitution.toList).map String.ofList := by
  rw [rewritten?_eq_bind, hfound, Option.bind_some, hwhole.before, hwhole.after]
  simp

end Envoy.RegexRewrite

namespace PathChange

/-- The text that a change puts into paths. -/
def text : PathChange → String
  | .whole path => path
  | .segments replacement => trimSlashes replacement

/-- What a change makes of a path if its text is put in as it is: the text, or the text in place of
the prefix and before what stands behind it. -/
def Puts (change : PathChange) (matched path result : String) : Prop :=
  match change with
  | .whole text => result = text
  | .segments _ => ∃ rest, path.toList = (trimSlashes matched).toList ++ rest ∧
      result.toList = change.text.toList ++ rest

/-- The rewrite that makes the change where this prefix is matched. -/
def rewrite (matched : String) : PathChange → Envoy.RegexRewrite
  | .whole path => ⟨some "^/.*$", path⟩
  | .segments replacement => PathReplacement.toRegex ⟨matched, replacement⟩

theorem rewrite_segments {replacement : String} (h : trimSlashes replacement ≠ "")
    (matched : String) :
    (segments replacement).rewrite matched =
      ⟨some ("^" ++ escapeRegex (trimSlashes matched) ++ "(/.*)?$"),
        trimSlashes replacement ++ "\\1"⟩ :=
  @PathReplacement.toRegex_of_target_ne_empty ⟨matched, replacement⟩ h

section Found

variable {path : String} {found : Regex.Found}

theorem isWhole_of_found?_whole {matched text : String}
    (h : ((whole text).rewrite matched).found? path = some found) :
    path.toList.head? = some '/' ∧ found.IsWhole path.toList [] := by
  rw [rewrite, Envoy.RegexRewrite.found?_of_parse Regex.parse?_wholePath] at h
  exact Regex.isWhole_of_search h

theorem exists_rest_of_found?_segments {matched replacement : String}
    (htext : trimSlashes replacement ≠ "")
    (h : ((segments replacement).rewrite matched).found? path = some found) :
    ∃ rest, path.toList = (trimSlashes matched).toList ++ rest ∧
      (rest = [] ∨ rest.head? = some '/') ∧ found.IsWhole path.toList rest := by
  rw [rewrite_segments htext,
    Envoy.RegexRewrite.found?_of_parse (Regex.parse?_restOrNothing (trimSlashes matched))] at h
  exact Regex.exists_rest_of_search h

end Found

variable {change : PathChange} {matched : String}

/-- Whichever change it makes, a rewrite matches whole paths and puts its text before what it leaves
of them. -/
theorem exists_leaves_of_found? (htext : ∀ replacement, change = .segments replacement →
      trimSlashes replacement ≠ "") {path : String} {found : Regex.Found}
    (h : (change.rewrite matched).found? path = some found) :
    ∃ tail rest, (change.rewrite matched).substitution.toList = change.text.toList ++ tail ∧
      found.IsWhole path.toList rest ∧ found.Leaves tail rest ∧
      ∀ result, change.Puts matched path result ↔ result.toList = change.text.toList ++ rest := by
  cases change with
  | whole text =>
      obtain ⟨-, hwhole⟩ := isWhole_of_found?_whole h
      refine ⟨[], [], (List.append_nil _).symm, hwhole,
        ⟨hwhole.group, .inl rfl, .inl ⟨rfl, rfl⟩⟩, ?_⟩
      intro result
      rw [List.append_nil, String.toList_inj]
      rfl
  | segments replacement =>
      have htext := htext replacement rfl
      obtain ⟨rest, hpath, hslash, hwhole⟩ := exists_rest_of_found?_segments htext h
      refine ⟨['\\', '1'], rest, ?_, hwhole, ⟨hwhole.group, hslash, .inr rfl⟩, ?_⟩
      · rw [rewrite_segments htext, String.toList_append]
        rfl
      · intro result
        constructor
        · rintro ⟨others, hothers, hresult⟩
          rw [hresult, List.append_cancel_left (hpath.symm.trans hothers)]
        · intro hresult
          exact ⟨rest, hpath, hresult⟩

/-- A rewrite that puts the text of a change into paths, as it is if there is no backslash in it,
and only then. -/
structure IsMadeBy (change : PathChange) (matched : String) (rewrite : Envoy.RegexRewrite) :
    Prop where
  literal : '\\' ∉ change.text.toList → ∀ path, (rewrite.found? path).isSome →
    ∃ result, rewrite.rewritten? path = some result ∧ change.Puts matched path result
  altered : '\\' ∈ change.text.toList → ∀ path result, path.toList.head? = some '/' →
    rewrite.rewritten? path = some result → ¬ change.Puts matched path result

theorem isMadeBy_rewrite (htext : ∀ replacement, change = .segments replacement →
      trimSlashes replacement ≠ "") : change.IsMadeBy matched (change.rewrite matched) where
  literal := by
    intro hbackslash path hsome
    obtain ⟨found, hfound⟩ := Option.isSome_iff_exists.1 hsome
    obtain ⟨tail, rest, hsubstitution, hwhole, hleaves, hputs⟩ :=
      exists_leaves_of_found? htext hfound
    refine ⟨String.ofList (change.text.toList ++ rest), ?_, ?_⟩
    · rw [Envoy.RegexRewrite.rewritten?_of_isWhole hfound hwhole, hsubstitution,
        hleaves.expand?_eq hbackslash, Option.map_some]
    · rw [hputs, String.toList_ofList]
  altered := by
    intro hbackslash path result hslash hresult hput
    cases hfound : (change.rewrite matched).found? path with
    | none =>
        rw [Envoy.RegexRewrite.rewritten?_eq_bind, hfound] at hresult
        cases hresult
    | some found =>
        obtain ⟨tail, rest, hsubstitution, hwhole, hleaves, hputs⟩ :=
          exists_leaves_of_found? htext hfound
        rw [Envoy.RegexRewrite.rewritten?_of_isWhole hfound hwhole, hsubstitution] at hresult
        obtain ⟨expanded, hexpanded, rfl⟩ := Option.map_eq_some_iff.1 hresult
        have hexpected : expanded = change.text.toList ++ rest := by
          simpa using (hputs _).1 hput
        have hstart : found.whole = [] ∨ found.whole.head? = some '/' := by
          rw [hwhole.whole]
          exact .inr hslash
        apply hleaves.expand?_ne hstart change.text.toList List.not_mem_nil (.inr hbackslash)
        rw [hexpanded, hexpected, List.nil_append]

end PathChange

/-- The change of paths that a modifier asks for. -/
def PathModifier.change? (modifier : PathModifier) : Option PathChange :=
  if modifier.kind = "ReplaceFullPath" then modifier.replaceFullPath.map .whole
  else modifier.replacement?.map .segments

/-- The change that the filters of a rule ask for, and for which the routes of the rule rewrite
paths.  A redirect to a whole path names that path and rewrites nothing. -/
def RuleFilters.pathChange? (filters : RuleFilters) : Option PathChange :=
  match filters.redirect with
  | some redirect => (redirect.path.bind (·.replacement?)).map .segments
  | .none => (filters.rewrite.bind (·.path)).bind (·.change?)

/-- A route that answers by itself, or that makes this change where it rewrites paths. -/
def Envoy.Route.Makes (route : Envoy.Route) (change : PathChange) (matched : String) : Prop :=
  (∃ response, route.action = some (.respond response)) ∨
    ∃ rewrite, route.action.bind (·.pathRewrite?) = some rewrite ∧ change.IsMadeBy matched rewrite

section Whole

variable {filters : RuleFilters} {path : String}

theorem PathModifier.eq_of_change?_whole {modifier : PathModifier}
    (h : modifier.change? = some (.whole path)) :
    modifier.kind = "ReplaceFullPath" ∧ modifier.replaceFullPath = some path := by
  rw [change?] at h
  split_ifs at h with hkind
  · simpa [hkind] using h
  · simp at h

/-- Filters that ask for a whole path by a rewrite have no redirect. -/
theorem RuleFilters.exists_modifier_of_whole (h : filters.pathChange? = some (.whole path)) :
    filters.redirect = .none ∧ ∃ rewrite modifier, filters.rewrite = some rewrite ∧
      rewrite.path = some modifier ∧ modifier.change? = some (.whole path) := by
  cases hredirect : filters.redirect with
  | some redirect =>
      simp only [pathChange?, hredirect, Option.map_eq_some_iff, reduceCtorEq, and_false,
        exists_false] at h
  | none =>
      simp only [pathChange?, hredirect, Option.bind_eq_some_iff] at h
      obtain ⟨modifier, ⟨rewrite, hrewrite, hpath⟩, hchange⟩ := h
      exact ⟨rfl, rewrite, modifier, hrewrite, hpath, hchange⟩

/-- Filters that ask for another prefix ask for its replacement. -/
theorem RuleFilters.replacement?_of_segments {replacement : String}
    (h : filters.pathChange? = some (.segments replacement)) :
    filters.replacement? = some replacement := by
  cases hredirect : filters.redirect with
  | some redirect =>
      simp only [pathChange?, hredirect, Option.map_eq_some_iff, PathChange.segments.injEq,
        exists_eq_right] at h
      rw [replacement?, hredirect]
      exact h
  | none =>
      simp only [pathChange?, hredirect, Option.bind_eq_some_iff] at h
      obtain ⟨modifier, ⟨rewrite, hrewrite, hpath⟩, hchange⟩ := h
      rw [PathModifier.change?] at hchange
      split_ifs at hchange
      · simp at hchange
      · simpa [replacement?, hredirect, hrewrite, hpath] using hchange

/-- An action that answers by itself, or forwards and puts this path in place of each. -/
structure RuleAction.PutsWhole (path : String) (action : RuleAction) : Prop where
  replacement_eq : action.replacement = none
  whole : (∃ status body, action.action = .respond status body) ∨
    ∃ clusters total rewrite, action.action = .forward clusters total (some rewrite) ∧
      rewrite.fullPath = some path

theorem RouteRule.putsWhole_of_actionOn {rule : RouteRule} {route : ObjectRef} {field : String}
    {targets : List BackendTarget} {action : RuleAction}
    (hasked : filters.pathChange? = some (.whole path))
    (h : rule.actionOn route field filters targets = .ok action) : action.PutsWhole path := by
  obtain ⟨hredirect, rewrite, modifier, hrewrite, hpath, hchange⟩ :=
    RuleFilters.exists_modifier_of_whole hasked
  obtain ⟨hkind, hfull⟩ := PathModifier.eq_of_change?_whole hchange
  have hplanned (place : String) : modifier.change route place = .ok (.whole path) := by
    simp [PathModifier.change, hkind, hfull]
  simp only [actionOn, hredirect, rewriteChange, hrewrite, Option.bind_some, hpath,
    Option.mapM_some, hplanned, forwardAction, bind_eq_ok, pure_eq_ok] at h
  obtain ⟨_, ⟨⟩, clusters, -, plan, hplan, rfl⟩ := h
  refine ⟨rfl, ?_⟩
  simp only [forward] at hplan
  split at hplan
  · cases hplan
    split_ifs
    · exact .inl ⟨_, _, rfl⟩
    · exact .inr ⟨_, _, _, rfl, rfl⟩
  · cases hplan

/-- A match of a rule that puts a whole path has a route that puts this path. -/
theorem RouteRule.makes_of_routeFor {route : HttpRoute} {ruleIndex matchIndex : Nat}
    {field matched : String} {action : RuleAction} {m : RouteMatch} {plan : RoutePlan}
    {converted : Envoy.Route} (haction : action.PutsWhole path)
    (hplan : routeFor route ruleIndex field filters action matchIndex m = .ok plan)
    (hconverted : plan.toRoute = .ok converted) : converted.Makes (.whole path) matched := by
  have hwhole : (PathChange.whole path).IsMadeBy matched
      ((PathChange.whole path).rewrite matched) :=
    PathChange.isMadeBy_rewrite fun _ h => nomatch h
  simp only [routeFor, RouteMatch.action, haction.replacement_eq, bind_eq_ok, pure_eq_ok] at hplan
  obtain ⟨_, ⟨⟩, rfl⟩ := hplan
  obtain ⟨convertedAction, hconvertedAction, ⟨⟩⟩ := bind_eq_ok.1 hconverted
  obtain ⟨status, body, hrespond⟩ | ⟨clusters, total, rewrite, hforward, hfull⟩ := haction.whole
  · simp only [hrespond, ActionPlan.toAction] at hconvertedAction
    cases hconvertedAction
    exact .inl ⟨_, rfl⟩
  · simp only [hforward, ActionPlan.toAction] at hconvertedAction
    split_ifs at hconvertedAction
    cases hconvertedAction
    refine .inr ⟨_, ?_, hwhole⟩
    simp [Envoy.RouteAction.pathRewrite?, ActionPlan.forwardAction, RewritePlan.toRegex?, hfull,
      PathChange.rewrite]

end Whole

theorem RouteMatch.IsReplacedBy.makes {replacement : String} {m : RouteMatch} {plan : RoutePlan}
    {converted : Envoy.Route} (h : m.IsReplacedBy replacement plan)
    (htext : trimSlashes replacement ≠ "") (hconverted : plan.toRoute = .ok converted) :
    converted.Makes (.segments replacement) m.pathOrRoot.value := by
  refine (h.2 converted hconverted).rewrite.imp_right fun hrewrite => ⟨_, hrewrite, ?_⟩
  apply PathChange.isMadeBy_rewrite
  rintro _ ⟨⟩
  exact htext

/-- Every match of a rule whose filters ask for a change of paths has a route that makes the change:
its text is put into paths as it is, unless there is a backslash in it, and then it is not. -/
theorem RouteRule.makes_of_plans {rule : RouteRule} {snapshot : Snapshot} {rules : ClusterRules}
    {route : HttpRoute} {ruleIndex : Nat} {filters : RuleFilters} {change : PathChange}
    {built built' : BackendClusters} {plans : List RoutePlan}
    (hfilters : RuleFilters.read route.ref (field ruleIndex) rule.filters = .ok filters)
    (hasked : filters.pathChange? = some change)
    (htext : ∀ replacement, change = .segments replacement → trimSlashes replacement ≠ "")
    (h : (rule.plans snapshot rules route ruleIndex).run built = .ok (plans, built')) :
    List.Forall₂ (fun m plan => ∀ converted, plan.toRoute = .ok converted →
      converted.Makes change m.pathOrRoot.value) rule.effectiveMatches plans := by
  cases change with
  | whole path =>
      obtain ⟨action, next, haction, hroutes⟩ := exists_action_of_plans hfilters h
      obtain ⟨targets, -, haction, -⟩ := run_ruleAction_eq_ok_iff.1 haction
      have hwhole := putsWhole_of_actionOn hasked haction
      apply hroutes.imp
      rintro m plan ⟨matchIndex, hplan⟩ converted hconverted
      exact makes_of_routeFor hwhole hplan hconverted
  | segments replacement =>
      have hreplaced := isReplacedBy_plans hfilters
        (RuleFilters.replacement?_of_segments hasked) h
      apply hreplaced.imp
      intro m plan hm converted hconverted
      exact hm.makes (htext replacement rfl) hconverted

theorem RouteRule.makes_of_moved :
    ∃ filters plans built,
      RuleFilters.read Sample.cart.ref (field 0) Sample.moved.filters = .ok filters ∧
      filters.pathChange? = some (.segments "/new") ∧
      (Sample.moved.plans Sample.snapshot Sample.rules Sample.cart 0).run ∅ = .ok (plans, built) ∧
      plans.length = 1 ∧
      List.Forall₂ (fun m plan => ∀ converted, plan.toRoute = .ok converted →
        converted.Makes (.segments "/new") m.pathOrRoot.value) Sample.moved.effectiveMatches
        plans := by
  have hread : (RuleFilters.read Sample.cart.ref (field 0) Sample.moved.filters).map
      (·.pathChange?) = .ok (some (.segments "/new")) := by
    decide +kernel
  have hrun : ((Sample.moved.plans Sample.snapshot Sample.rules Sample.cart 0).run ∅).map
      (·.1.length) = .ok 1 := by
    decide +kernel
  have htext : ∀ replacement, PathChange.segments "/new" = .segments replacement →
      trimSlashes replacement ≠ "" := by
    rintro _ ⟨⟩
    decide +kernel
  obtain ⟨filters, hfilters, hasked⟩ := map_eq_ok.1 hread
  obtain ⟨⟨plans, built⟩, hplans, hlength⟩ := map_eq_ok.1 hrun
  exact ⟨filters, plans, built, hfilters, hasked, hplans, hlength,
    makes_of_plans hfilters hasked htext hplans⟩

/-- A rule that puts a path with a backslash in place of each. -/
def Sample.marked : RouteRule :=
  ⟨[prefixMatch "/cart"], [⟨"URLRewrite", none, none, none,
    some ⟨none, some ⟨"ReplaceFullPath", some "/a\\0b", none⟩⟩⟩], [backend none "web" none]⟩

/-- The mark in the path stands for the path that was there. -/
theorem PathChange.not_puts_of_marked :
    (RuleFilters.read Sample.cart.ref (RouteRule.field 0) Sample.marked.filters).map
      (·.pathChange?) = .ok (some (.whole "/a\\0b")) ∧
    ((Sample.marked.plans Sample.snapshot Sample.rules Sample.cart 0).run ∅).map (fun result =>
        result.1.map fun plan => plan.toRoute.map fun route =>
          route.action.bind (·.pathRewrite?)) =
      .ok [.ok (some ⟨some "^/.*$", "/a\\0b"⟩)] ∧
    (Envoy.RegexRewrite.mk (some "^/.*$") "/a\\0b").rewritten? "/cart" = some "/a/cartb" ∧
    ¬ (PathChange.whole "/a\\0b").Puts "/cart" "/cart" "/a/cartb" :=
  ⟨by decide +kernel, by decide +kernel, by decide +kernel,
    fun hputs => absurd (show "/a/cartb" = "/a\\0b" from hputs) (by decide)⟩

end GatewayCompiler
