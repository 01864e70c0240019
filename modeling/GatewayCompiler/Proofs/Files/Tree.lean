import GatewayCompiler.Proofs.Files.System

/-!
# File trees that are written

A file tree is a file system.  Writing changes no directory but the one that holds the file, so every
path leads to the same place before and after it.
-/

namespace GatewayCompiler

namespace FileTree

variable {tree : FileTree} {way other parent : List String} {name path : String}
  {bytes : List UInt8}

/-- The tree with a file at a place. -/
def put (tree : FileTree) (way : List String) (bytes : List UInt8) : FileTree :=
  if (tree.entries.lookup way).isSome then
    ⟨tree.entries.map fun entry => if entry.1 = way then (way, some bytes) else entry⟩
  else ⟨tree.entries ++ [(way, some bytes)]⟩

/-- Where a path leads, whether or not something is there. -/
def place (tree : FileTree) (path : String) : Except FileError (List String) := do
  if path.isEmpty || path.startsWith "/" then
    throw .notFound
  tree.walk [] (steps path)

/-- A place with no directory. -/
def IsFree (tree : FileTree) (way : List String) : Prop :=
  ∀ node, tree.node? way = some node → ¬ node.IsDirectory

/-- The tree after a file has been written. -/
def write (tree : FileTree) (path : String) (bytes : List UInt8) : Except FileError FileTree := do
  tree.checkWritable path
  return tree.put (← tree.place path) bytes

/-! What a tree with a new file has -/

theorem lookup_map_replace (entries : List (List String × Option (List UInt8))) :
    (entries.map fun entry => if entry.1 = way then (way, some bytes) else entry).lookup other =
      if other = way then (entries.lookup way).map fun _ => some bytes
      else entries.lookup other := by
  induction entries with
  | nil => simp
  | cons entry entries ih =>
      obtain ⟨key, content⟩ := entry
      rw [List.map_cons]
      by_cases hkey : key = way
      · subst hkey
        by_cases hother : other = key
        · simp [hother]
        · rw [if_pos rfl, List.lookup_cons, beq_false_of_ne hother, ih, if_neg hother,
            if_neg hother, List.lookup_cons, beq_false_of_ne hother]
      · rw [if_neg hkey, List.lookup_cons, ih, List.lookup_cons, List.lookup_cons,
          beq_false_of_ne (Ne.symm hkey)]
        by_cases hother : other = way
        · rw [hother, beq_false_of_ne (Ne.symm hkey)]
        · rw [if_neg hother, if_neg hother]

theorem lookup_put : (tree.put way bytes).entries.lookup other =
    if other = way then some (some bytes) else tree.entries.lookup other := by
  rw [put]
  by_cases hthere : (tree.entries.lookup way).isSome
  · obtain ⟨content, hcontent⟩ := Option.isSome_iff_exists.1 hthere
    rw [if_pos hthere, lookup_map_replace, hcontent]
    rfl
  · have hnone : tree.entries.lookup way = none :=
      Option.not_isSome_iff_eq_none.1 hthere
    rw [if_neg hthere, List.lookup_append, List.lookup_cons]
    by_cases hother : other = way
    · rw [if_pos hother, hother, hnone, beq_self_eq_true]
      rfl
    · rw [beq_false_of_ne hother, if_neg hother]
      exact Option.or_none

/-- The name of a way that leads into a directory. -/
def nameIn? (directory way : List String) : Option String :=
  if way ≠ [] ∧ way.dropLast = directory then way.getLast? else none

theorem namesIn_eq_filterMap (tree : FileTree) (directory : List String) :
    tree.namesIn directory = (tree.entries.map (·.1)).filterMap (nameIn? directory) := by
  rw [List.filterMap_map]
  rfl

theorem eq_of_nameIn? {directory : List String} (h : nameIn? directory way = some name) :
    way = directory ++ [name] := by
  rw [nameIn?] at h
  split_ifs at h with hway
  obtain ⟨before, rfl⟩ := List.getLast?_eq_some_iff.1 h
  rw [← hway.2, List.dropLast_concat]

/-- A directory keeps its names; a name that it has more is the one of the file. -/
theorem exists_namesIn_put (directory : List String) :
    ∃ added, (tree.put way bytes).namesIn directory = tree.namesIn directory ++ added ∧
      ∀ name ∈ added, way = directory ++ [name] := by
  have hways : ∃ ways, (tree.put way bytes).entries.map (·.1) = tree.entries.map (·.1) ++ ways ∧
      ∀ other ∈ ways, other = way := by
    rw [put]
    split_ifs
    · refine ⟨[], ?_, List.forall_mem_nil _⟩
      rw [List.append_nil, List.map_map]
      apply List.map_congr_left
      intro entry _
      rw [Function.comp_apply]
      split_ifs with hentry
      · exact hentry.symm
      · rfl
    · exact ⟨[way], List.map_append, fun other hother => List.mem_singleton.1 hother⟩
  obtain ⟨ways, hkeys, hways⟩ := hways
  refine ⟨ways.filterMap (nameIn? directory), ?_, ?_⟩
  · rw [namesIn_eq_filterMap, namesIn_eq_filterMap, hkeys, List.filterMap_append]
  · intro name hname
    obtain ⟨other, hother, hnamed⟩ := List.mem_filterMap.1 hname
    rw [← hways other hother]
    exact eq_of_nameIn? hnamed

theorem node?_put_self (h : way ≠ []) :
    (tree.put way bytes).node? way = some (.file bytes none) := by
  rw [node?, if_neg h, lookup_put, if_pos rfl]

/-- What is at another place stays there, but that a directory may list the file. -/
theorem node?_put_cases (tree : FileTree) (bytes : List UInt8) (h : other ≠ way) :
    (∃ names added, tree.node? other = some (.directory names none) ∧
      (tree.put way bytes).node? other = some (.directory (names ++ added) none) ∧
        ∀ name ∈ added, way = other ++ [name]) ∨
    tree.IsFree other ∧ (tree.put way bytes).node? other = tree.node? other := by
  obtain ⟨added, hnames, hadded⟩ :
      ∃ added, (tree.put way bytes).namesIn other = tree.namesIn other ++ added ∧
        ∀ name ∈ added, way = other ++ [name] := exists_namesIn_put other
  simp only [IsFree, node?, lookup_put, if_neg h]
  split_ifs with hroot
  · subst hroot
    exact .inl ⟨_, added, rfl, by rw [hnames], hadded⟩
  · rcases tree.entries.lookup other with _ | _ | content
    · exact .inr ⟨by simp, rfl⟩
    · exact .inl ⟨_, added, rfl, by simp only [hnames], hadded⟩
    · exact .inr ⟨by simp [FileNode.IsDirectory], rfl⟩

/-! Ways through a tree with a new file -/

theorem requireDirectory_eq_ok_iff :
    tree.requireDirectory way = .ok () ↔
      ∃ node : FileNode, tree.node? way = some node ∧ node.IsDirectory := by
  rw [requireDirectory]
  rcases tree.node? way with _ | _ | _ | _ <;> simp [FileNode.IsDirectory]

/-- Unless the file is put in the place of one, directories are those that were there. -/
theorem requireDirectory_put_iff (hway : way ≠ [])
    (hfree : tree.IsFree way) :
    (tree.put way bytes).requireDirectory other = .ok () ↔ tree.requireDirectory other = .ok () := by
  rw [requireDirectory_eq_ok_iff, requireDirectory_eq_ok_iff]
  by_cases hother : other = way
  · subst hother
    rw [node?_put_self hway]
    constructor
    · rintro ⟨_, ⟨⟩, _, _, hfile⟩
      cases hfile
    · rintro ⟨node, hnode, hdirectory⟩
      exact absurd hdirectory (hfree node hnode)
  · obtain ⟨names, added, hbefore, hafter, _⟩ | ⟨_, hafter⟩ := node?_put_cases tree bytes hother
    · exact iff_of_true ⟨_, hafter, _, _, rfl⟩ ⟨_, hbefore, _, _, rfl⟩
    · rw [hafter]

theorem walk_cons_eq_ok_iff {step : String} {rest : List String} :
    tree.walk way (step :: rest) = .ok other ↔ tree.requireDirectory way = .ok () ∧
      tree.walk (if isStay step then way else if step = ".." then way.dropLast else way ++ [step])
        rest = .ok other := by
  rw [walk]
  cases tree.requireDirectory way with
  | error reason =>
      constructor
      · intro h
        cases h
      · rintro ⟨h, _⟩
        cases h
  | ok done =>
      rw [ok_bind]
      split_ifs <;> simp

theorem walk_append_eq_ok_iff {first second : List String} :
    tree.walk way (first ++ second) = .ok other ↔
      ∃ between, tree.walk way first = .ok between ∧ tree.walk between second = .ok other := by
  induction first generalizing way with
  | nil => simp [walk]
  | cons step first ih =>
      rw [List.cons_append, walk_cons_eq_ok_iff, ih]
      simp only [walk_cons_eq_ok_iff, and_assoc, exists_and_left]

/-- A walk into a directory goes on to each of its names. -/
theorem walk_concat {steps : List String} (hwalk : tree.walk way steps = .ok parent)
    (hparent : tree.requireDirectory parent = .ok ()) (hstay : isStay name = false)
    (hup : name ≠ "..") : tree.walk way (steps ++ [name]) = .ok (parent ++ [name]) := by
  rw [walk_append_eq_ok_iff]
  refine ⟨parent, hwalk, ?_⟩
  rw [walk_cons_eq_ok_iff, if_neg (by simp [hstay]), if_neg hup]
  exact ⟨hparent, rfl⟩

theorem walk_put_eq_ok_iff (hway : way ≠ [])
    (hfree : tree.IsFree way) {start : List String}
    {steps : List String} :
    (tree.put way bytes).walk start steps = .ok other ↔ tree.walk start steps = .ok other := by
  induction steps generalizing start with
  | nil => rfl
  | cons step steps ih =>
      rw [walk_cons_eq_ok_iff, walk_cons_eq_ok_iff, requireDirectory_put_iff hway hfree, ih]

theorem place_eq_ok_iff : tree.place path = .ok way ↔
    (path.isEmpty || path.startsWith "/") = false ∧ tree.walk [] (steps path) = .ok way := by
  rw [place]
  cases path.isEmpty || path.startsWith "/" with
  | true =>
      constructor
      · intro h
        cases h
      · rintro ⟨h, _⟩
        cases h
  | false => exact (and_iff_right rfl).symm

theorem place_put_eq_ok_iff (hway : way ≠ [])
    (hfree : tree.IsFree way) :
    (tree.put way bytes).place path = .ok other ↔ tree.place path = .ok other := by
  rw [place_eq_ok_iff, place_eq_ok_iff, walk_put_eq_ok_iff hway hfree]

/-- A path shows what is at the place that it leads to. -/
theorem view_eq_bind (tree : FileTree) (path : String) :
    tree.view path = tree.place path >>= fun way =>
      match tree.node? way with
      | some node => .ok node
      | none => .error .notFound := by
  rw [view, place]
  cases path.isEmpty || path.startsWith "/" with
  | true => rfl
  | false =>
      rw [if_neg Bool.false_ne_true, if_neg Bool.false_ne_true]
      apply bind_congr
      intro way
      cases tree.node? way <;> rfl

theorem view_eq_ok_iff {node : FileNode} :
    tree.view path = .ok node ↔ ∃ way, tree.place path = .ok way ∧ tree.node? way = some node := by
  rw [view_eq_bind, bind_eq_ok]
  apply exists_congr
  intro way
  rcases tree.node? way with _ | found <;> simp

/-! Names in paths -/

theorem steps_append_slash (before after : List Char) :
    steps (String.ofList (before ++ '/' :: after)) =
      steps (String.ofList before) ++ steps (String.ofList after) := by
  simp only [steps, String.toList_ofList, List.splitOn_append_cons_self, List.map_append]

theorem steps_of_noSlash (h : '/' ∉ name.toList) : steps name = [name] := by
  rw [steps, List.splitOn_eq_singleton h, List.map_singleton, String.ofList_toList]

theorem noSlash_of_mem_splitOn (text : List Char) : ∀ piece ∈ text.splitOn '/', '/' ∉ piece := by
  induction text with
  | nil => simp
  | cons c text ih =>
      rw [List.splitOn_cons_eq_if_modifyHead]
      split_ifs with hc
      · exact List.forall_mem_cons.2 ⟨List.not_mem_nil, ih⟩
      · obtain ⟨first, rest, hsplit⟩ := List.exists_cons_of_ne_nil (List.splitOn_ne_nil '/' text)
        rw [hsplit] at ih ⊢
        obtain ⟨hfirst, hrest⟩ := List.forall_mem_cons.1 ih
        refine List.forall_mem_cons.2 ⟨?_, hrest⟩
        rw [List.mem_cons, not_or]
        exact ⟨fun h => hc (beq_iff_eq.2 h.symm), hfirst⟩

theorem noSlash_of_mem_steps {step : String} (h : step ∈ steps path) : '/' ∉ step.toList := by
  obtain ⟨piece, hpiece, rfl⟩ := List.mem_map.1 h
  rw [String.toList_ofList]
  exact noSlash_of_mem_splitOn path.toList piece hpiece

theorem dropLast_steps_concat (path : String) :
    (steps path).dropLast ++ [(steps path).getLastD ""] = steps path := by
  have hne : steps path ≠ [] := by
    rw [steps, ne_eq, List.map_eq_nil_iff]
    exact List.splitOn_ne_nil '/' path.toList
  rw [List.getLastD_eq_getLast?, List.getLast?_eq_some_getLast hne, Option.getD_some,
    List.dropLast_concat_getLast]

theorem relative_iff : (path.isEmpty || path.startsWith "/") = false ↔
    ∃ c rest, path.toList = c :: rest ∧ c ≠ '/' := by
  have hempty : path.isEmpty = false ↔ path.toList ≠ [] := by
    rw [← Bool.not_eq_true, String.isEmpty_iff, ne_eq, String.toList_eq_nil_iff]
  rw [Bool.or_eq_false_iff, String.startsWith_string_eq_false_iff, hempty]
  have hslash : "/".toList = ['/'] := rfl
  rw [hslash]
  cases path.toList with
  | nil => simp
  | cons c rest => simp [eq_comm]

theorem place_of_walk {c : Char} {rest : List Char} (hpath : path.toList = c :: rest)
    (hrelative : c ≠ '/') (hwalk : tree.walk [] (steps path) = .ok way) :
    tree.place path = .ok way :=
  place_eq_ok_iff.2 ⟨relative_iff.2 ⟨c, rest, hpath, hrelative⟩, hwalk⟩

theorem relative_append (h : (path.isEmpty || path.startsWith "/") = false) (more : String) :
    ((path ++ more).isEmpty || (path ++ more).startsWith "/") = false := by
  obtain ⟨c, rest, hpath, hc⟩ := relative_iff.1 h
  rw [relative_iff, String.toList_append, hpath]
  exact ⟨c, rest ++ more.toList, rfl, hc⟩

theorem exists_steps_of_endsWith (h : path.endsWith "/" = true) :
    ∃ before, ∀ more, steps (path ++ more) = before ++ steps more := by
  have hsuffix : "/".toList <:+ path.toList := by
    rw [← String.copy_toSlice (s := path)]
    exact String.Slice.endsWith_string_iff.1 h
  obtain ⟨before, hbefore⟩ := hsuffix
  refine ⟨steps (String.ofList before), fun more => ?_⟩
  have hpath : (path ++ more).toList = before ++ '/' :: more.toList := by
    rw [String.toList_append, ← hbefore, List.append_assoc]
    rfl
  rw [← String.ofList_toList (s := path ++ more), hpath, steps_append_slash, String.ofList_toList]

theorem steps_append_slash_append (path name : String) :
    steps (path ++ ("/" ++ name)) = steps path ++ steps name := by
  have hpath : (path ++ ("/" ++ name)).toList = path.toList ++ '/' :: name.toList := by
    rw [String.toList_append, String.toList_append]
    rfl
  rw [← String.ofList_toList (s := path ++ ("/" ++ name)), hpath, steps_append_slash,
    String.ofList_toList, String.ofList_toList]

/-- The path of a name in a directory leads to that name. -/
theorem place_joinPath (hplace : tree.place path = .ok parent)
    (hparent : tree.requireDirectory parent = .ok ()) (hstay : isStay name = false)
    (hup : name ≠ "..") (hslash : '/' ∉ name.toList) :
    tree.place (Manifest.joinPath path name) = .ok (parent ++ [name]) := by
  rw [place_eq_ok_iff] at hplace ⊢
  obtain ⟨hrelative, hwalk⟩ := hplace
  by_cases hends : path.endsWith "/" = true
  · have hjoin : Manifest.joinPath path name = path ++ name := by
      rw [Manifest.joinPath, if_pos hends]
    obtain ⟨before, hsteps⟩ := exists_steps_of_endsWith hends
    -- What stands behind the last slash of the path is a step that stays where it is.
    have hpath : steps path = before ++ [""] := by
      have := hsteps ""
      rwa [String.append_empty] at this
    rw [hpath, walk_append_eq_ok_iff] at hwalk
    obtain ⟨between, hbetween, hlast⟩ := hwalk
    rw [walk_cons_eq_ok_iff, if_pos (by decide)] at hlast
    obtain ⟨_, ⟨⟩⟩ := hlast
    rw [hjoin, hsteps, steps_of_noSlash hslash]
    exact ⟨relative_append hrelative name, walk_concat hbetween hparent hstay hup⟩
  · have hjoin : Manifest.joinPath path name = path ++ ("/" ++ name) := by
      rw [Manifest.joinPath, if_neg hends, ← String.append_assoc]
      rfl
    rw [hjoin, steps_append_slash_append, steps_of_noSlash hslash]
    exact ⟨relative_append hrelative _, walk_concat hwalk hparent hstay hup⟩

/-! Writing -/

theorem concat_ne_nil (parent : List String) (name : String) : parent ++ [name] ≠ [] :=
  List.append_ne_nil_of_right_ne_nil parent (List.cons_ne_nil name [])

/-- A path that a file can be written to, by its directory and its name. -/
structure IsTarget (tree : FileTree) (path : String) (parent : List String) (name : String) :
    Prop where
  relative : (path.isEmpty || path.startsWith "/") = false
  walk_eq : tree.walk [] (steps path).dropLast = .ok parent
  steps_eq : (steps path).dropLast ++ [name] = steps path
  directory : tree.requireDirectory parent = .ok ()
  stay : isStay name = false
  up : name ≠ ".."
  free : tree.IsFree (parent ++ [name])

theorem isTarget_of_checkWritable (h : tree.checkWritable path = .ok ()) :
    ∃ parent, tree.IsTarget path parent ((steps path).getLastD "") := by
  cases hrelative : path.isEmpty || path.startsWith "/" with
  | true =>
      rw [checkWritable, hrelative] at h
      cases h
  | false =>
      rw [checkWritable, hrelative] at h
      obtain ⟨parent, hwalk, h⟩ := bind_eq_ok.1 h
      obtain ⟨_, hdirectory, h⟩ := bind_eq_ok.1 h
      dsimp only at h
      split_ifs at h with hlast
      · cases h
      · rw [Bool.or_eq_true, decide_eq_true_eq, not_or, Bool.not_eq_true] at hlast
        refine ⟨parent, hrelative, hwalk, dropLast_steps_concat path, hdirectory, hlast.1, hlast.2,
          ?_⟩
        rintro _ hnode ⟨names, refusal, rfl⟩
        rw [hnode] at h
        cases h

namespace IsTarget

variable (h : tree.IsTarget path parent name)

include h

theorem place_eq : tree.place path = .ok (parent ++ [name]) := by
  rw [place_eq_ok_iff, ← h.steps_eq]
  exact ⟨h.relative, walk_concat h.walk_eq h.directory h.stay h.up⟩

theorem name_eq : name = (steps path).getLastD "" :=
  List.singleton_inj.1 (List.append_cancel_left (h.steps_eq.trans (dropLast_steps_concat path).symm))

theorem checkWritable_eq : tree.checkWritable path = .ok () := by
  obtain rfl := h.name_eq
  have hlast : ¬ (isStay ((steps path).getLastD "") ||
      decide ((steps path).getLastD "" = "..")) = true := by
    rw [Bool.or_eq_true, decide_eq_true_eq, not_or, Bool.not_eq_true]
    exact ⟨h.stay, h.up⟩
  rw [checkWritable, h.relative, if_neg Bool.false_ne_true]
  dsimp only
  rw [h.walk_eq, ok_bind, h.directory, ok_bind, if_neg hlast]
  split
  · rename_i names refusal hnode
    exact absurd ⟨names, refusal, rfl⟩ (h.free _ hnode)
  · rfl

theorem noSlash : '/' ∉ name.toList := by
  apply noSlash_of_mem_steps
  rw [← h.steps_eq]
  exact List.mem_append_right _ List.mem_cons_self

/-- A file that has been written can be written again. -/
theorem put (bytes : List UInt8) :
    (tree.put (parent ++ [name]) bytes).IsTarget path parent name where
  relative := h.relative
  walk_eq := (walk_put_eq_ok_iff (concat_ne_nil parent name) h.free).2 h.walk_eq
  steps_eq := h.steps_eq
  directory := (requireDirectory_put_iff (concat_ne_nil parent name) h.free).2 h.directory
  stay := h.stay
  up := h.up
  free := by
    rintro _ hnode ⟨names, refusal, rfl⟩
    rw [node?_put_self (concat_ne_nil parent name)] at hnode
    cases hnode

end IsTarget

theorem write_eq_ok_iff {next : FileTree} : tree.write path bytes = .ok next ↔
    ∃ parent name, tree.IsTarget path parent name ∧ next = tree.put (parent ++ [name]) bytes := by
  rw [write, bind_eq_ok]
  constructor
  · rintro ⟨_, htarget, hnext⟩
    obtain ⟨parent, htarget⟩ := isTarget_of_checkWritable htarget
    rw [htarget.place_eq] at hnext
    cases hnext
    exact ⟨parent, _, htarget, rfl⟩
  · rintro ⟨parent, name, htarget, rfl⟩
    refine ⟨(), htarget.checkWritable_eq, ?_⟩
    rw [htarget.place_eq]
    rfl

/-- A file can be written exactly where the tree says so. -/
theorem map_write (tree : FileTree) (path : String) (bytes : List UInt8) :
    (tree.write path bytes).map (fun _ => ()) = tree.checkWritable path := by
  rw [write]
  cases hcheck : tree.checkWritable path with
  | error reason => rfl
  | ok done =>
      obtain ⟨parent, h⟩ := isTarget_of_checkWritable hcheck
      rw [ok_bind, h.place_eq]
      rfl

/-- Two paths that lead to one place. -/
def LeadsTo (tree : FileTree) (path other : String) : Prop :=
  ∃ way, tree.place path = .ok way ∧ tree.place other = .ok way

namespace IsTarget

variable (h : tree.IsTarget path parent name) {source : String}

include h

theorem place_put_iff : (tree.put (parent ++ [name]) bytes).place source = .ok way ↔
    tree.place source = .ok way :=
  place_put_eq_ok_iff (concat_ne_nil parent name) h.free

/-- Paths lead to a written file when they led to its place before. -/
theorem leadsTo_put_iff : (tree.put (parent ++ [name]) bytes).LeadsTo source path ↔
    tree.place source = .ok (parent ++ [name]) := by
  have hpath := (h.put bytes).place_eq
  constructor
  · rintro ⟨way, hsource, hway⟩
    rw [hpath] at hway
    cases hway
    exact h.place_put_iff.1 hsource
  · intro hsource
    exact ⟨_, h.place_put_iff.2 hsource, hpath⟩

theorem ne_of_not_leadsTo (hleads : ¬ (tree.put (parent ++ [name]) bytes).LeadsTo source path)
    (hsource : tree.place source = .ok way) : way ≠ parent ++ [name] := by
  rintro rfl
  exact hleads (h.leadsTo_put_iff.2 hsource)

theorem isWritten_put (bytes : List UInt8) :
    tree.view.IsWritten ((tree.put (parent ++ [name]) bytes).LeadsTo · path) bytes
      (tree.put (parent ++ [name]) bytes).view where
  written := by
    intro source hleads
    refine ⟨none, view_eq_ok_iff.2 ⟨_, h.place_put_iff.2 (h.leadsTo_put_iff.1 hleads), ?_⟩⟩
    exact node?_put_self (concat_ne_nil parent name)
  other_iff := by
    intro source node hleads hnode
    simp only [view_eq_ok_iff, h.place_put_iff]
    apply exists_congr
    intro way
    rw [and_congr_right_iff]
    intro hsource
    obtain ⟨names, added, hbefore, hafter, _⟩ | ⟨_, hafter⟩ :=
      node?_put_cases tree bytes (h.ne_of_not_leadsTo hleads hsource)
    · rw [hbefore, hafter]
      constructor
      · rintro ⟨⟩
        exact absurd ⟨_, _, rfl⟩ hnode
      · rintro ⟨⟩
        exact absurd ⟨_, _, rfl⟩ hnode
    · rw [hafter]
  directory := by
    intro source names refusal hleads hnames
    obtain ⟨way, hsource, hbefore⟩ := view_eq_ok_iff.1 hnames
    obtain ⟨listed, added, hlisted, hafter, hadded⟩ | ⟨hfree, _⟩ :=
      node?_put_cases tree bytes (h.ne_of_not_leadsTo hleads hsource)
    · rw [hbefore] at hlisted
      cases hlisted
      refine ⟨_, added, view_eq_ok_iff.2 ⟨way, h.place_put_iff.2 hsource, hafter⟩, .refl _, ?_⟩
      -- A new name is the last step of the way to the file, and the directory is its parent.
      intro other hmem
      obtain ⟨rfl, hname⟩ := List.append_inj' (hadded other hmem) rfl
      obtain rfl := List.singleton_inj.1 hname
      exact h.leadsTo_put_iff.2 (place_joinPath hsource h.directory h.stay h.up h.noSlash)
    · exact absurd ⟨names, refusal, rfl⟩ (hfree _ hbefore)
  was_directory := by
    intro source listed refusal hleads hlisted
    obtain ⟨way, hsource, hafter⟩ := view_eq_ok_iff.1 hlisted
    rw [h.place_put_iff] at hsource
    obtain ⟨names, added, hbefore, hput, _⟩ | ⟨hfree, hput⟩ :=
      node?_put_cases tree bytes (h.ne_of_not_leadsTo hleads hsource)
    · rw [hput] at hafter
      cases hafter
      exact ⟨names, view_eq_ok_iff.2 ⟨way, hsource, hbefore⟩⟩
    · rw [hput] at hafter
      exact absurd ⟨listed, refusal, rfl⟩ (hfree _ hafter)

end IsTarget

/-- File trees are a file system. -/
def system : FileSystem where
  State := FileTree
  view := view
  write := write
  LeadsTo := LeadsTo
  isWritten_write := by
    intro tree path bytes next hwrite
    obtain ⟨parent, name, h, rfl⟩ := write_eq_ok_iff.1 hwrite
    exact h.isWritten_put bytes
  exists_write := by
    intro tree path bytes next hwrite other
    obtain ⟨parent, name, h, rfl⟩ := write_eq_ok_iff.1 hwrite
    exact ⟨_, write_eq_ok_iff.2 ⟨parent, name, h.put bytes, rfl⟩⟩

end FileTree

end GatewayCompiler
