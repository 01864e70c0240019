import GatewayCompiler.Plan.Route
import Mathlib.Data.List.Basic

/-!
# Regular expressions of rewrites

A rewrite replaces what its pattern matches.  Patterns are read from their text and matched the way
a backtracking matcher does it: the first match counts, repetitions and options take what they can
get before they try with less, and a dot is any character but a line break.  Read here is what the
patterns of rewrites are made of: characters, escaped ones among them, dots, anchors, repeated
characters, and one group that may be optional.
-/

namespace GatewayCompiler

namespace Regex

/-- What one character is matched by. -/
inductive CharClass where
  | only (c : Char)
  | any
  deriving DecidableEq, Repr

def CharClass.accepts : CharClass → Char → Bool
  | .only c, found => found == c
  | .any, found => found != '\n'

end Regex

open Regex in
inductive Regex where
  | empty
  | start
  | finish
  | one (accepted : CharClass)
  | many (accepted : CharClass)
  | optional (body : Regex)
  | group (body : Regex)
  | append (first second : Regex)
  deriving DecidableEq, Repr

namespace Regex

/-- A place in a text: the characters before it, the nearest first, those ahead of it, and what the
group has matched so far. -/
structure Place where
  passed : List Char
  ahead : List Char
  group : Option (List Char)
  deriving DecidableEq, Repr

/-- What lies between a place and one that is further on in the same text. -/
def Place.upTo (place next : Place) : List Char :=
  place.ahead.take (place.ahead.length - next.ahead.length)

/-- The places after as many characters as are accepted, after one less, and so on. -/
def manyFrom (accepted : CharClass) (group : Option (List Char)) :
    List Char → List Char → List Place
  | passed, [] => [⟨passed, [], group⟩]
  | passed, c :: ahead =>
    if accepted.accepts c then
      manyFrom accepted group (c :: passed) ahead ++ [⟨passed, c :: ahead, group⟩]
    else [⟨passed, c :: ahead, group⟩]

/-- The places that a match from a place can end in, those that are tried first before the others. -/
def run : Regex → Place → List Place
  | .empty, place => [place]
  | .start, place => if place.passed = [] then [place] else []
  | .finish, place => if place.ahead = [] then [place] else []
  | .one accepted, place =>
    match place.ahead with
    | [] => []
    | c :: ahead => if accepted.accepts c then [⟨c :: place.passed, ahead, place.group⟩] else []
  | .many accepted, place => manyFrom accepted place.group place.passed place.ahead
  | .optional body, place => body.run place ++ [place]
  | .group body, place =>
    (body.run place).map fun next => { next with group := some (place.upTo next) }
  | .append first second, place => (first.run place).flatMap second.run

/-- The place that a match from a place ends in. -/
def best? (regex : Regex) (place : Place) : Option Place :=
  (regex.run place).head?

/-- A match within a text. -/
structure Found where
  before : List Char
  whole : List Char
  group : Option (List Char)
  after : List Char
  deriving DecidableEq, Repr

/-- The first match that starts at a place in the text or later. -/
def searchFrom (regex : Regex) (passed : List Char) (ahead : List Char) : Option Found :=
  let place : Place := ⟨passed, ahead, none⟩
  match regex.best? place, ahead with
  | some next, _ => some ⟨passed.reverse, place.upTo next, next.group, next.ahead⟩
  | none, [] => none
  | none, c :: rest => searchFrom regex (c :: passed) rest

def search (regex : Regex) (text : List Char) : Option Found :=
  regex.searchFrom [] text

/-! Reading patterns -/

inductive Token where
  | one (accepted : CharClass)
  | start
  | finish
  | star
  | question
  | opening
  | closing
  deriving DecidableEq, Repr

/-- What a character without a backslash before it says; `none` is what is not read here. -/
def token? (c : Char) : Option Token :=
  match c with
  | '.' => some (.one .any)
  | '^' => some .start
  | '$' => some .finish
  | '*' => some .star
  | '?' => some .question
  | '(' => some .opening
  | ')' => some .closing
  | '\\' | '+' | '|' | '[' | ']' | '\x7b' | '\x7d' => none
  | c => some (.one (.only c))

/-- A backslash before a letter or a digit means something else than that character. -/
def isEscapable (c : Char) : Bool :=
  c.val < 128 && !c.isAlphanum && c != '_'

def tokens? : List Char → Option (List Token)
  | [] => some []
  | '\\' :: c :: rest =>
    if isEscapable c then (tokens? rest).map (.one (.only c) :: ·) else none
  | c :: rest => do
    let token ← token? c
    let tokens ← tokens? rest
    return token :: tokens

def concat (parts : List Regex) : Regex :=
  parts.foldr append empty

/-- Takes up a token.  The stack has the parts of the pattern and above them those of an open group,
each in reverse. -/
def readToken : List (List Regex) → Token → Option (List (List Regex))
  | parts :: stack, .one accepted => some ((.one accepted :: parts) :: stack)
  | parts :: stack, .start => some ((.start :: parts) :: stack)
  | parts :: stack, .finish => some ((.finish :: parts) :: stack)
  | (.one accepted :: parts) :: stack, .star => some ((.many accepted :: parts) :: stack)
  | (.one accepted :: parts) :: stack, .question =>
    some ((.optional (.one accepted) :: parts) :: stack)
  | (.group body :: parts) :: stack, .question => some ((.optional (.group body) :: parts) :: stack)
  | [parts], .opening => some [[], parts]
  | body :: parts :: stack, .closing => some ((.group (concat body.reverse) :: parts) :: stack)
  | _, _ => none

/-- The regular expression of a pattern, which has at most one group. -/
def parse? (pattern : String) : Option Regex := do
  let tokens ← tokens? pattern.toList
  if tokens.count .opening > 1 then none
  match ← tokens.foldlM readToken [[]] with
  | [parts] => some (concat parts.reverse)
  | _ => none

/-- What is put in place of a match: `\0` stands for the match, `\1` for what the group has matched,
nothing if it has not, and two backslashes for one. -/
def expand? (found : Found) : List Char → Option (List Char)
  | [] => some []
  | '\\' :: '0' :: rest => (expand? found rest).map (found.whole ++ ·)
  | '\\' :: '1' :: rest => (expand? found rest).map (found.group.getD [] ++ ·)
  | '\\' :: '\\' :: rest => (expand? found rest).map ('\\' :: ·)
  | '\\' :: _ => none
  | c :: rest => (expand? found rest).map (c :: ·)

/-- A text as the characters that match it. -/
def literals (text : List Char) : List Regex :=
  text.map fun c => one (.only c)

/-! What is tried first -/

section Best

variable {first second body : Regex} {place next last : Place}

theorem run_append (first second : Regex) (place : Place) :
    (append first second).run place = (first.run place).flatMap second.run :=
  rfl

theorem run_optional (body : Regex) (place : Place) :
    (optional body).run place = body.run place ++ [place] :=
  rfl

theorem best?_append (hfirst : first.best? place = some next)
    (hsecond : second.best? next = some last) :
    (append first second).best? place = some last := by
  obtain ⟨others, hothers⟩ := List.head?_eq_some_iff.1 hfirst
  rw [best?, run_append, hothers, List.flatMap_cons, List.head?_append, ← best?, hsecond,
    Option.some_or]

theorem best?_optional_of_some (h : body.best? place = some next) :
    (optional body).best? place = some next := by
  rw [best?, run_optional, List.head?_append, ← best?, h, Option.some_or]

theorem best?_optional_of_nil (h : body.run place = []) :
    (optional body).best? place = some place := by
  rw [best?, run_optional, h]
  rfl

theorem best?_group (h : body.best? place = some next) :
    (group body).best? place = some { next with group := some (place.upTo next) } := by
  show ((body.run place).map _).head? = _
  rw [List.head?_map, ← best?, h, Option.map_some]

/-- Repeated characters are taken as far as they go. -/
theorem head?_manyFrom (accepted : CharClass) (matched : Option (List Char))
    (passed ahead : List Char) :
    (manyFrom accepted matched passed ahead).head? =
      some ⟨(ahead.takeWhile accepted.accepts).reverse ++ passed,
        ahead.dropWhile accepted.accepts, matched⟩ := by
  induction ahead generalizing passed with
  | nil => rfl
  | cons c ahead ih =>
      rw [manyFrom]
      split_ifs with h
      · rw [List.head?_append, ih, List.takeWhile_cons_of_pos h, List.dropWhile_cons_of_pos h,
          List.reverse_cons, List.append_assoc]
        rfl
      · rw [List.takeWhile_cons_of_neg h, List.dropWhile_cons_of_neg h]
        rfl

theorem best?_many (accepted : CharClass) (place : Place) :
    (many accepted).best? place =
      some ⟨(place.ahead.takeWhile accepted.accepts).reverse ++ place.passed,
        place.ahead.dropWhile accepted.accepts, place.group⟩ :=
  head?_manyFrom accepted place.group place.passed place.ahead

theorem best?_finish (h : place.ahead = []) : finish.best? place = some place :=
  congrArg List.head? (if_pos h)

theorem best?_one {accepted : CharClass} {c : Char} (h : accepted.accepts c = true)
    (passed ahead : List Char) (matched : Option (List Char)) (rest : Regex) :
    (append (one accepted) rest).best? ⟨passed, c :: ahead, matched⟩ =
      rest.best? ⟨c :: passed, ahead, matched⟩ := by
  have hone : (one accepted).run ⟨passed, c :: ahead, matched⟩ =
      [⟨c :: passed, ahead, matched⟩] := if_pos h
  rw [best?, run_append, hone, List.flatMap_singleton, best?]

/-- A match from the start of a text is the first one. -/
theorem search_of_best? {regex : Regex} {text : List Char}
    (h : regex.best? ⟨[], text, none⟩ = some next) :
    regex.search text =
      some ⟨[], (⟨[], text, none⟩ : Place).upTo next, next.group, next.ahead⟩ := by
  rw [search, searchFrom.eq_def]
  simp [h]

/-- A text that stands ahead is matched by its characters, and by nothing else. -/
theorem best?_literals (text passed ahead : List Char) (matched : Option (List Char))
    (rest : Regex) :
    ((literals text).foldr append rest).best? ⟨passed, text ++ ahead, matched⟩ =
      rest.best? ⟨text.reverse ++ passed, ahead, matched⟩ := by
  induction text generalizing passed with
  | nil => rfl
  | cons c text ih =>
      have honly : (CharClass.only c).accepts c = true := beq_self_eq_true c
      rw [List.reverse_cons, List.append_assoc, List.singleton_append, ← ih]
      exact best?_one honly passed (text ++ ahead) matched _

/-- A pattern that starts with a text goes on behind it. -/
theorem search_anchored {text ahead : List Char} {parts : List Regex}
    (h : (concat parts).best? ⟨text.reverse, ahead, none⟩ = some next) :
    (concat (start :: (literals text ++ parts))).search (text ++ ahead) =
      some ⟨[], (⟨[], text ++ ahead, none⟩ : Place).upTo next, next.group, next.ahead⟩ := by
  have hstart : start.best? ⟨[], text ++ ahead, none⟩ = some ⟨[], text ++ ahead, none⟩ := rfl
  have hrest : (concat (literals text ++ parts)).best? ⟨[], text ++ ahead, none⟩ = some next := by
    rw [concat, List.foldr_append, best?_literals, List.append_nil]
    exact h
  exact search_of_best? (best?_append hstart hrest)

end Best

/-! Reading what was escaped -/

theorem isEscapable_of_isRegexMeta {c : Char} (h : isRegexMeta c = true) :
    isEscapable c = true := by
  have hall : "\\.+*?()|[]\x7b\x7d^$#&-~".toList.all isEscapable = true := by
    decide +kernel
  exact List.all_eq_true.1 hall c (List.contains_iff_mem.1 h)

/-- A character without a meaning of its own means itself. -/
theorem token?_of_not_isRegexMeta {c : Char} (h : isRegexMeta c = false) :
    token? c = some (.one (.only c)) := by
  simp only [isRegexMeta] at h
  rw [token?.eq_def]
  split <;> simp_all

theorem tokens?_cons {c : Char} (rest : List Char) (h : c ≠ '\\') :
    tokens? (c :: rest) = (token? c).bind fun token => (tokens? rest).map (token :: ·) := by
  rw [tokens?.eq_def]
  simp [h]
  rcases token? c with _ | token <;> rcases tokens? rest with _ | tokens <;> rfl

theorem tokens?_escaped (c : Char) (rest : List Char) :
    tokens? ((if isRegexMeta c then ['\\', c] else [c]) ++ rest) =
      (tokens? rest).map (.one (.only c) :: ·) := by
  split_ifs with hmeta
  · simp [tokens?, isEscapable_of_isRegexMeta hmeta]
  · have hmeta : isRegexMeta c = false := by simpa using hmeta
    have hbackslash : c ≠ '\\' := by
      intro h
      rw [h] at hmeta
      exact absurd hmeta (by decide)
    rw [List.singleton_append, tokens?_cons rest hbackslash, token?_of_not_isRegexMeta hmeta]
    rfl

theorem tokens?_escapeRegex (text : String) (rest : List Char) :
    tokens? ((escapeRegex text).toList ++ rest) =
      (tokens? rest).map ((text.toList.map fun c => .one (.only c)) ++ ·) := by
  rw [escapeRegex, String.toList_ofList]
  induction text.toList with
  | nil =>
      rw [List.flatMap_nil, List.nil_append]
      cases tokens? rest <;> rfl
  | cons c text ih =>
      rw [List.flatMap_cons, List.append_assoc, tokens?_escaped, ih, Option.map_map]
      rfl

theorem foldlM_readToken_literals (text : List Char) (tokens : List Token) (parts : List Regex) :
    ((text.map fun c => Token.one (.only c)) ++ tokens).foldlM readToken [parts] =
      tokens.foldlM readToken [(literals text).reverse ++ parts] := by
  induction text generalizing parts with
  | nil => rfl
  | cons c text ih =>
      rw [List.map_cons, List.cons_append, List.foldlM_cons, literals, List.map_cons,
        List.reverse_cons, List.append_assoc]
      exact ih (one (.only c) :: parts)

theorem parse?_of_tokens {pattern : String} {tokens : List Token} {parts : List Regex}
    (htokens : tokens? pattern.toList = some tokens) (hcount : tokens.count .opening ≤ 1)
    (hread : tokens.foldlM readToken [[]] = some [parts]) :
    parse? pattern = some (concat parts.reverse) := by
  have hmany : ¬ tokens.count .opening > 1 := by omega
  simp only [parse?, htokens, hread, Option.bind_eq_bind, Option.bind_some, if_neg hmany]

/-- An escaped text is read as its characters, if the rest of the pattern is read on its own. -/
theorem parse?_anchored {rest : String} {tail : List Token} {parts : List Regex} (text : String)
    (htokens : tokens? rest.toList = some tail) (hcount : tail.count .opening ≤ 1)
    (hread : ∀ before, tail.foldlM readToken [before] = some [parts.reverse ++ before]) :
    parse? ("^" ++ escapeRegex text ++ rest) =
      some (concat (start :: (literals text.toList ++ parts))) := by
  have htext : tokens? ("^" ++ escapeRegex text ++ rest).toList =
      some (.start :: ((text.toList.map fun c => .one (.only c)) ++ tail)) := by
    rw [String.toList_append, String.toList_append, List.append_assoc]
    have hmark : "^".toList = ['^'] := rfl
    rw [hmark, List.singleton_append, tokens?_cons _ (by decide), tokens?_escapeRegex, htokens]
    rfl
  have hgroups : ((.start :: ((text.toList.map fun c => Token.one (.only c)) ++ tail)).count
      .opening) ≤ 1 := by
    have hliterals : (text.toList.map fun c => Token.one (.only c)).count .opening = 0 := by
      rw [List.count_eq_zero]
      simp
    simpa [List.count_cons, hliterals] using hcount
  have hparts : (.start :: ((text.toList.map fun c => Token.one (.only c)) ++ tail)).foldlM
      readToken [[]] = some [parts.reverse ++ ((literals text.toList).reverse ++ [start])] := by
    rw [← hread, ← foldlM_readToken_literals]
    rfl
  rw [parse?_of_tokens htext hgroups hparts]
  simp

end Regex

/-- What a proxy makes of a path, if the pattern matches.  The patterns of rewrites start where the
path does, so there is no second match. -/
def Envoy.RegexRewrite.rewritten? (rewrite : Envoy.RegexRewrite) (path : String) :
    Option String := do
  let pattern ← rewrite.pattern
  let regex ← Regex.parse? pattern
  let found ← regex.search path.toList
  let inserted ← Regex.expand? found rewrite.substitution.toList
  return String.ofList (found.before ++ inserted ++ found.after)

theorem Envoy.RegexRewrite.rewritten?_of_search {pattern substitution path result : String}
    {regex : Regex} {found : Regex.Found} {inserted : List Char}
    (hparse : Regex.parse? pattern = some regex) (hsearch : regex.search path.toList = some found)
    (hexpand : Regex.expand? found substitution.toList = some inserted)
    (hresult : result = String.ofList (found.before ++ inserted ++ found.after)) :
    (RegexRewrite.mk (some pattern) substitution).rewritten? path = some result := by
  simp only [rewritten?, Option.bind_eq_bind, Option.bind_some, hparse, hsearch, hexpand]
  rw [hresult]
  rfl

example : (Envoy.RegexRewrite.mk (some "^/a\\.b(/.*)?$") "/new\\1").rewritten? "/a.b/c" =
    some "/new/c" := by
  decide +kernel

end GatewayCompiler
