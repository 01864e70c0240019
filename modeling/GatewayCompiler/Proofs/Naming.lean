import GatewayCompiler.Naming
import Mathlib.Data.String.Basic

/-!
# Names that tell their objects apart

A name joins the parts of an identity by slashes, so it gives the parts back only where a slash
cannot belong to a part.  The listeners of one Gateway always have names of their own.  The ports of
Services do as long as no namespace has a slash in its name; the names of Services may have slashes.
Where no part has a slash, every name gives back all of its parts.
-/

namespace GatewayCompiler

/-- A key whose namespace and name have no slash. -/
structure ObjectKey.IsPlain (key : ObjectKey) : Prop where
  ns : '/' ∉ key.ns.toList
  name : '/' ∉ key.name.toList

instance (key : ObjectKey) : Decidable key.IsPlain :=
  decidable_of_iff ('/' ∉ key.ns.toList ∧ '/' ∉ key.name.toList)
    ⟨fun h => ⟨h.1, h.2⟩, fun h => ⟨h.ns, h.name⟩⟩

namespace Naming

/-- A text is split at its first slash in one way only. -/
theorem eq_of_append_slash {first first' rest rest' : List Char} (hfirst : '/' ∉ first)
    (hfirst' : '/' ∉ first') (h : first ++ '/' :: rest = first' ++ '/' :: rest') :
    first = first' ∧ rest = rest' := by
  induction first generalizing first' with
  | nil =>
      cases first' with
      | nil => exact ⟨rfl, (List.cons.inj h).2⟩
      | cons c first' =>
          have hslash : '/' = c := (List.cons.inj h).1
          exact absurd (hslash ▸ List.mem_cons_self) hfirst'
  | cons c first ih =>
      cases first' with
      | nil =>
          have hslash : c = '/' := (List.cons.inj h).1
          exact absurd (hslash ▸ List.mem_cons_self) hfirst
      | cons c' first' =>
          obtain ⟨hhead, htail⟩ := List.cons.inj h
          have hsplit := ih (List.not_mem_of_not_mem_cons hfirst)
            (List.not_mem_of_not_mem_cons hfirst') htail
          exact ⟨by rw [hhead, hsplit.1], hsplit.2⟩

/-- A text is split at its last slash in one way only. -/
theorem eq_of_append_slash_last {rest rest' last last' : List Char} (hlast : '/' ∉ last)
    (hlast' : '/' ∉ last') (h : rest ++ '/' :: last = rest' ++ '/' :: last') :
    rest = rest' ∧ last = last' := by
  have hreverse : last.reverse ++ '/' :: rest.reverse = last'.reverse ++ '/' :: rest'.reverse := by
    simpa using congrArg List.reverse h
  have hsplit := eq_of_append_slash (mt List.mem_reverse.1 hlast) (mt List.mem_reverse.1 hlast')
    hreverse
  exact ⟨List.reverse_injective hsplit.2, List.reverse_injective hsplit.1⟩

/-- Parts without the separator are told by the text that joins them. -/
theorem eq_of_intercalate_eq {separator : String} {c : Char} {parts parts' : List String}
    (hseparator : separator.toList = [c]) (hplain : ∀ part ∈ parts, c ∉ part.toList)
    (hplain' : ∀ part ∈ parts', c ∉ part.toList) (hne : parts ≠ []) (hne' : parts' ≠ [])
    (h : separator.intercalate parts = separator.intercalate parts') : parts = parts' := by
  have hsplit (texts : List String) (htexts : ∀ text ∈ texts, c ∉ text.toList)
      (hsome : texts ≠ []) :
      (separator.intercalate texts).toList.splitOn c = texts.map String.toList := by
    rw [String.toList_intercalate, hseparator]
    apply List.splitOn_intercalate
    · exact List.forall_mem_map.2 htexts
    · exact mt List.map_eq_nil_iff.1 hsome
  have hlists : parts.map String.toList = parts'.map String.toList :=
    calc parts.map String.toList
      _ = (separator.intercalate parts).toList.splitOn c := (hsplit parts hplain hne).symm
      _ = (separator.intercalate parts').toList.splitOn c := by rw [h]
      _ = parts'.map String.toList := hsplit parts' hplain' hne'
  exact List.map_injective_iff.2 (fun _ _ => String.toList_inj.1) hlists

theorem slash_notMem_repr (n : Nat) : '/' ∉ n.repr.toList := by
  intro hslash
  rw [Nat.toList_repr] at hslash
  have hdigit := Nat.isDigit_of_mem_toDigits (by decide) (by decide) hslash
  exact absurd hdigit (by decide)

theorem repr_injective : Function.Injective Nat.repr := by
  intro m n h
  have hdigits : Nat.toDigits 10 m = Nat.toDigits 10 n := by
    rw [← Nat.toList_repr, h, Nat.toList_repr]
  calc m = Nat.ofDigitChars 10 (Nat.toDigits 10 m) 0 := Nat.ofDigitChars_ten_toDigits.symm
    _ = Nat.ofDigitChars 10 (Nat.toDigits 10 n) 0 := by rw [hdigits]
    _ = n := Nat.ofDigitChars_ten_toDigits

theorem listener_injective (gateway : ObjectKey) : Function.Injective (listener gateway) := by
  intro a b h
  exact (String.append_right_inj _).1 h

theorem toList_cluster (service : ObjectKey) (port : UInt16) :
    (cluster service port).toList =
      service.ns.toList ++ '/' :: (service.name.toList ++ '/' :: port.toNat.repr.toList) := by
  have hname : cluster service port =
      service.ns ++ "/" ++ service.name ++ "/" ++ port.toNat.repr := rfl
  simp [hname]

/-- Where no namespace has a slash, the name of a cluster tells the Service and the port. -/
theorem eq_of_cluster_eq {service service' : ObjectKey} {port port' : UInt16}
    (hns : '/' ∉ service.ns.toList) (hns' : '/' ∉ service'.ns.toList)
    (h : cluster service port = cluster service' port') : service = service' ∧ port = port' := by
  have hchars := congrArg String.toList h
  rw [toList_cluster, toList_cluster] at hchars
  have hfirst := eq_of_append_slash hns hns' hchars
  have hlast := eq_of_append_slash_last (slash_notMem_repr _) (slash_notMem_repr _) hfirst.2
  have hnamespace : service.ns = service'.ns := String.toList_inj.1 hfirst.1
  have hname : service.name = service'.name := String.toList_inj.1 hlast.1
  have hport : port.toNat = port'.toNat := repr_injective (String.toList_inj.1 hlast.2)
  constructor
  · cases service
    cases service'
    exact congrArg₂ ObjectKey.mk hnamespace hname
  · exact UInt16.toNat_inj.1 hport

section Plain

variable {key key' : ObjectKey}

/-- The name of what an object has: the key of the object, then what tells it within the object. -/
def within (key : ObjectKey) (rest : List String) : String :=
  "/".intercalate (key.ns :: key.name :: rest)

theorem eq_of_within_eq {rest rest' : List String} (hkey : key.IsPlain) (hkey' : key'.IsPlain)
    (hrest : ∀ part ∈ rest, '/' ∉ part.toList) (hrest' : ∀ part ∈ rest', '/' ∉ part.toList)
    (h : within key rest = within key' rest') : key = key' ∧ rest = rest' := by
  have hparts : key.ns :: key.name :: rest = key'.ns :: key'.name :: rest' := by
    refine eq_of_intercalate_eq (c := '/') rfl ?_ ?_ (List.cons_ne_nil _ _)
      (List.cons_ne_nil _ _) h
    · exact List.forall_mem_cons.2 ⟨hkey.ns, List.forall_mem_cons.2 ⟨hkey.name, hrest⟩⟩
    · exact List.forall_mem_cons.2 ⟨hkey'.ns, List.forall_mem_cons.2 ⟨hkey'.name, hrest'⟩⟩
  obtain ⟨hns, hparts⟩ := List.cons.inj hparts
  obtain ⟨hname, hrest⟩ := List.cons.inj hparts
  exact ⟨congrArg₂ ObjectKey.mk hns hname, hrest⟩

theorem listener_eq_within (gateway : ObjectKey) (listenerName : String) :
    listener gateway listenerName = within gateway [listenerName] :=
  rfl

/-- Where nothing has a slash, the name of a listener tells its Gateway too. -/
theorem eq_of_listener_eq {listenerName listenerName' : String} (hkey : key.IsPlain)
    (hkey' : key'.IsPlain) (hname : '/' ∉ listenerName.toList)
    (hname' : '/' ∉ listenerName'.toList)
    (h : listener key listenerName = listener key' listenerName') :
    key = key' ∧ listenerName = listenerName' := by
  rw [listener_eq_within, listener_eq_within] at h
  have hsplit := eq_of_within_eq hkey hkey' (List.forall_mem_singleton.2 hname)
    (List.forall_mem_singleton.2 hname') h
  exact ⟨hsplit.1, List.singleton_inj.1 hsplit.2⟩

theorem route_eq_within (key : ObjectKey) (ruleIndex matchIndex : Nat) :
    route key ruleIndex matchIndex =
      within key ["rule", ruleIndex.repr, "match", matchIndex.repr] := by
  have hname : route key ruleIndex matchIndex =
      key.ns ++ "/" ++ key.name ++ "/rule/" ++ ruleIndex.repr ++ "/match/" ++ matchIndex.repr := rfl
  apply String.toList_inj.1
  simp [hname, within, -Nat.toList_repr]

theorem slash_notMem_places (ruleIndex matchIndex : Nat) :
    ∀ part ∈ ["rule", ruleIndex.repr, "match", matchIndex.repr], '/' ∉ part.toList := by
  simp only [List.forall_mem_cons]
  exact ⟨by decide, slash_notMem_repr _, by decide, slash_notMem_repr _, List.forall_mem_nil _⟩

/-- Where no key has a slash, the name of a route tells the match that it is planned for. -/
theorem eq_of_route_eq {ruleIndex ruleIndex' matchIndex matchIndex' : Nat} (hkey : key.IsPlain)
    (hkey' : key'.IsPlain) (h : route key ruleIndex matchIndex = route key' ruleIndex' matchIndex') :
    key = key' ∧ ruleIndex = ruleIndex' ∧ matchIndex = matchIndex' := by
  rw [route_eq_within, route_eq_within] at h
  obtain ⟨hsame, hrest⟩ := eq_of_within_eq hkey hkey' (slash_notMem_places _ _)
    (slash_notMem_places _ _) h
  simp only [List.cons.injEq, true_and, and_true] at hrest
  exact ⟨hsame, repr_injective hrest.1, repr_injective hrest.2⟩

/-- A slash can move from one part to the next. -/
example : listener ⟨"infra", "edge"⟩ "blue/http" = listener ⟨"infra", "edge/blue"⟩ "http" := by
  decide

end Plain

theorem slash_notMem_statistics (name : String) : '/' ∉ (statistics name).toList := by
  rw [statistics, String.toList_ofList, List.mem_map]
  rintro ⟨c, -, hc⟩
  split_ifs at hc with hslash
  · exact absurd hc (by decide)
  · exact hslash hc

end Naming

end GatewayCompiler
