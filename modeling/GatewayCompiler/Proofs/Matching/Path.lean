import GatewayCompiler.Translation.Rules
import Mathlib.Data.String.Basic

/-!
# Paths that a condition accepts

A route says which paths it accepts by a whole path, by a prefix of segments or by a regular
expression; a proxy compares characters.  The specifier that a condition becomes accepts the same
paths.  What a regular expression matches is left open, so long as both sides agree on it.
-/

namespace GatewayCompiler

/-- Whether a regular expression, which comes first, matches a text as a whole. -/
abbrev FullMatch := String → String → Bool

variable {fullMatch : FullMatch} {path : String}

/-- What is left of a path without the slashes that it ends in. -/
structure IsStem (stem path : List Char) : Prop where
  getLast_ne : stem.getLast? ≠ some '/'
  slashes : ∃ count, path = stem ++ List.replicate count '/'

theorem isStem_dropEndWhile (path : List Char) :
    IsStem (Text.dropEndWhile (· == '/') path) path := by
  constructor
  · intro hlast
    rw [Text.dropEndWhile, List.getLast?_reverse] at hlast
    have hhead := List.head?_dropWhile_not (· == '/') path.reverse
    rw [hlast] at hhead
    simp at hhead
  · obtain ⟨tail, hpath, htail⟩ := Text.exists_dropEndWhile_append (· == '/') path
    have hslashes : tail = List.replicate tail.length '/' := by
      apply List.eq_replicate_of_mem
      intro c hc
      exact eq_of_beq (htail c hc)
    exact ⟨tail.length, hslashes ▸ hpath⟩

theorem IsStem.eq_dropEndWhile {stem path : List Char} (h : IsStem stem path) :
    stem = Text.dropEndWhile (· == '/') path := by
  obtain ⟨count, rfl⟩ := h.slashes
  have hslashes : ∀ c ∈ List.replicate count '/', (c == '/') = true := by
    intro c hc
    rw [List.eq_of_mem_replicate hc]
    rfl
  have hstem : stem.reverse.dropWhile (· == '/') = stem.reverse := by
    cases hreverse : stem.reverse with
    | nil => rfl
    | cons last rest =>
        have hlast : last ≠ '/' := by
          intro hslash
          apply h.getLast_ne
          rw [← List.head?_reverse, hreverse, hslash]
          rfl
        rw [List.dropWhile_cons_of_neg (by simpa using hlast)]
  rw [Text.dropEndWhile, List.reverse_append, List.reverse_replicate,
    List.dropWhile_append_of_pos hslashes, hstem, List.reverse_reverse]

/-- A path has one stem, the one that is left when its slashes are trimmed. -/
theorem isStem_iff {stem : List Char} {path : String} :
    IsStem stem path.toList ↔ stem = (trimSlashes path).toList := by
  rw [trimSlashes, String.toList_ofList]
  constructor
  · exact IsStem.eq_dropEndWhile
  · intro h
    rw [h]
    exact isStem_dropEndWhile path.toList

/-- Whether the condition accepts the path.  A prefix is one of segments: the path is the prefix
without the slashes it ends in, or goes on from there with a slash. -/
def PathMatch.Accepts (fullMatch : FullMatch) (condition : PathMatch) (path : String) : Prop :=
  match condition.kind with
  | .exact => path = condition.value
  | .pathPrefix => ∃ stem, IsStem stem condition.value.toList ∧
      (path.toList = stem ∨ stem ++ ['/'] <+: path.toList)
  | .regularExpression => fullMatch condition.value path = true

/-- Whether a proxy takes the path for one that the specifier means.  A separated prefix means
itself and what starts with it and a slash. -/
def Envoy.PathSpecifier.accepts (fullMatch : FullMatch) (path : String) :
    Envoy.PathSpecifier → Bool
  | .path value => path == value
  | .pathPrefix value => value.toList.isPrefixOf path.toList
  | .separatedPrefix value =>
    path == value || (value.toList ++ ['/']).isPrefixOf path.toList
  | .regex pattern => fullMatch pattern path

theorem PathPlan.accepts_segments (value : String) (hslash : path.toList.head? = some '/') :
    (PathPlan.segments value).toSpecifier.accepts fullMatch path = true ↔
      path.toList = (trimSlashes value).toList ∨
        (trimSlashes value).toList ++ ['/'] <+: path.toList := by
  by_cases hempty : trimSlashes value = ""
  · -- Every path starts with a slash, so both sides accept it.
    obtain ⟨rest, hpath⟩ := List.head?_eq_some_iff.1 hslash
    have hspecifier : (PathPlan.segments value).toSpecifier = .pathPrefix "/" := by
      rw [toSpecifier, hempty]
      rfl
    have hprefix : "/".toList <+: path.toList := by
      rw [hpath]
      exact ⟨rest, rfl⟩
    rw [hspecifier, hempty, Envoy.PathSpecifier.accepts, List.isPrefixOf_iff_prefix]
    exact iff_of_true hprefix (.inr hprefix)
  · have hspecifier : (PathPlan.segments value).toSpecifier =
        .separatedPrefix (trimSlashes value) := by
      simp [toSpecifier, hempty]
    rw [hspecifier, Envoy.PathSpecifier.accepts, Bool.or_eq_true, beq_iff_eq,
      List.isPrefixOf_iff_prefix, String.toList_inj]

/-- A path condition and the specifier it becomes accept the same paths. -/
theorem PathMatch.accepts_toSpecifier_plan (condition : PathMatch)
    (hslash : path.toList.head? = some '/') :
    condition.plan.toSpecifier.accepts fullMatch path = true ↔
      condition.Accepts fullMatch path := by
  cases hkind : condition.kind with
  | exact =>
      simp [plan, Accepts, hkind, PathPlan.toSpecifier, Envoy.PathSpecifier.accepts]
  | pathPrefix =>
      have hplan : condition.plan = .segments condition.value := by
        rw [plan, hkind]
      rw [hplan, PathPlan.accepts_segments condition.value hslash, Accepts, hkind]
      simp only [isStem_iff, exists_eq_left]
  | regularExpression =>
      simp [plan, Accepts, hkind, PathPlan.toSpecifier, Envoy.PathSpecifier.accepts]

end GatewayCompiler
