import GatewayCompiler.Proofs.Notices
import GatewayCompiler.Proofs.Outcome
import GatewayCompiler.Translation.Gateway
import Mathlib.Data.Finset.Card
import Mathlib.Data.Nat.Find

/-!
# The check of listeners

The listeners of a Gateway are checked one after another.  A name that one before has fails the check
and ends it; a port that one before has is noted, with the last listener before that has it.  So the
check passes through the listeners up to the first that repeats a name, or through all of them, and
its notices are those of the listeners it has passed.
-/

namespace GatewayCompiler

/-! One listener -/

section Step

variable {gateway : Gateway} {index : Nat} {listener : Listener} {earlier rest : List Listener}

/-- What is noted of a listener after others, the last first: the last of them that has its port. -/
def Gateway.portNotice? (gateway : Gateway) (earlier : List Listener) (listener : Listener) :
    Option Notice :=
  (earlier.find? (·.port == listener.port)).map fun first =>
    .sharedPort gateway.key listener.port first.name listener.name

/-- The fault of a listener that repeats a name. -/
def Gateway.nameFault (gateway : Gateway) (index : Nat) (listener : Listener) : Fault :=
  .invalid gateway.ref s!"spec.listeners[{index}].name"
    s!"listener name '{listener.name}' is used more than once"

theorem any_name_iff : earlier.any (·.name == listener.name) = true ↔
    listener.name ∈ earlier.map (·.name) := by
  simp

theorem checkListeners_cons_of_mem (h : listener.name ∈ earlier.map (·.name)) :
    checkListeners gateway index earlier (listener :: rest) =
      Report.fail (gateway.nameFault index listener) := by
  rw [checkListeners, if_pos (any_name_iff.2 h)]
  rfl

theorem checkListeners_cons_of_notMem (h : listener.name ∉ earlier.map (·.name)) :
    checkListeners gateway index earlier (listener :: rest) =
      Report.note (gateway.portNotice? earlier listener).toList >>= fun _ =>
        checkListeners gateway (index + 1) (listener :: earlier) rest := by
  rw [checkListeners, if_neg (mt any_name_iff.1 h), Gateway.portNotice?]
  cases earlier.find? (·.port == listener.port) <;> rfl

end Step

namespace Gateway

/-- The check of all listeners of a Gateway. -/
def checked (gateway : Gateway) : Report Fault Unit :=
  checkListeners gateway 0 [] gateway.listeners

/-- The place of a listener whose name one before it has. -/
def RepeatsName (gateway : Gateway) (index : Nat) : Prop :=
  ∃ listener, gateway.listeners[index]? = some listener ∧
    listener.name ∈ (gateway.listeners.take index).map (·.name)

/-- The place of a listener whose port one before it has. -/
def RepeatsPort (gateway : Gateway) (index : Nat) : Prop :=
  ∃ listener, gateway.listeners[index]? = some listener ∧
    listener.port ∈ (gateway.listeners.take index).map (·.port)

/-- What is noted at such a place: the last listener before it that has the port, and its own. -/
def NotesPort (gateway : Gateway) (index : Nat) (notice : Notice) : Prop :=
  ∃ before first between listener,
    gateway.listeners.take index = before ++ first :: between ∧
      gateway.listeners[index]? = some listener ∧ first.port = listener.port ∧
      (∀ other ∈ between, other.port ≠ listener.port) ∧
      notice = .sharedPort gateway.key listener.port first.name listener.name

/-- What the check of listeners finds. -/
structure IsChecked (gateway : Gateway) (report : Report Fault Unit) : Prop where
  /-- It fails exactly if a name is repeated, -/
  fails_iff : (∃ fault, report.outcome = .error fault) ↔ ∃ index, gateway.RepeatsName index
  /-- at the first place at which one is. -/
  fault : ∀ fault, report.outcome = .error fault → ∃ index listener,
    gateway.listeners[index]? = some listener ∧ gateway.RepeatsName index ∧
      (∀ earlier < index, ¬ gateway.RepeatsName earlier) ∧
      fault = .invalid gateway.ref s!"spec.listeners[{index}].name"
        s!"listener name '{listener.name}' is used more than once"
  /-- It notes, up to that place, every listener whose port is repeated. -/
  notices : Notice.GoThrough (· < ·)
    (fun index => gateway.RepeatsPort index ∧
      ∀ earlier ≤ index, ¬ gateway.RepeatsName earlier) gateway.NotesPort report.notices
  /-- Of listeners with different names, all but one for each port are noted. -/
  length_notices : (gateway.listeners.map (·.name)).Nodup →
    report.notices.length + (gateway.listeners.map (·.port)).toFinset.card =
      gateway.listeners.length

/-! Listener after listener -/

variable {gateway : Gateway} {index count : Nat}

theorem lt_length_of_repeatsName (h : gateway.RepeatsName index) :
    index < gateway.listeners.length := by
  obtain ⟨listener, hlistener, _⟩ := h
  exact (List.getElem?_eq_some_iff.1 hlistener).1

/-- What is noted at a place. -/
def noticeAt? (gateway : Gateway) (index : Nat) : Option Notice :=
  gateway.listeners[index]?.bind
    (gateway.portNotice? (gateway.listeners.take index).reverse)

/-- What is noted at the places before this one. -/
def noticesBefore (gateway : Gateway) (count : Nat) : List Notice :=
  (List.range count).filterMap gateway.noticeAt?

theorem noticesBefore_succ (gateway : Gateway) (count : Nat) :
    gateway.noticesBefore (count + 1) =
      gateway.noticesBefore count ++ (gateway.noticeAt? count).toList := by
  rw [noticesBefore, List.range_succ, List.filterMap_append]
  cases hnotice : gateway.noticeAt? count <;> simp [noticesBefore, hnotice]

/-- As long as no name is repeated, the check passes from listener to listener. -/
theorem checked_eq_of_passes (hcount : count ≤ gateway.listeners.length)
    (hfresh : ∀ index < count, ¬ gateway.RepeatsName index) :
    gateway.checked = Report.note (gateway.noticesBefore count) >>= fun _ =>
      checkListeners gateway count (gateway.listeners.take count).reverse
        (gateway.listeners.drop count) := by
  induction count with
  | zero => rfl
  | succ count ih =>
      have hlistener := List.getElem?_eq_getElem hcount
      have hnew : (gateway.listeners[count]).name ∉
          (gateway.listeners.take count).reverse.map (·.name) := by
        rw [List.map_reverse, List.mem_reverse]
        intro hmem
        exact hfresh count (Nat.lt_succ_self count) ⟨_, hlistener, hmem⟩
      have hnotice : gateway.noticeAt? count =
          gateway.portNotice? (gateway.listeners.take count).reverse gateway.listeners[count] := by
        rw [noticeAt?, hlistener, Option.bind_some]
      have htaken : (gateway.listeners.take (count + 1)).reverse =
          gateway.listeners[count] :: (gateway.listeners.take count).reverse := by
        rw [← List.take_concat_get' _ count hcount, List.reverse_append]
        rfl
      have hpassed : ∀ index < count, ¬ gateway.RepeatsName index := by
        intro index hindex
        exact hfresh index (hindex.trans (Nat.lt_succ_self count))
      rw [ih (Nat.le_of_succ_le hcount) hpassed, List.drop_eq_getElem_cons hcount,
        checkListeners_cons_of_notMem hnew, ← hnotice, noticesBefore_succ, htaken, ← bind_assoc]
      rfl

/-- There is a first place at which a name is repeated, or none. -/
theorem exists_first_repeat (gateway : Gateway) :
    ∃ count, (∀ index < count, ¬ gateway.RepeatsName index) ∧
      (count = gateway.listeners.length ∨ gateway.RepeatsName count) := by
  classical
  by_cases hrepeats : ∃ index, gateway.RepeatsName index
  · exact ⟨Nat.find hrepeats, fun _ => Nat.find_min hrepeats, .inr (Nat.find_spec hrepeats)⟩
  · exact ⟨_, fun index _ h => hrepeats ⟨index, h⟩, .inl rfl⟩

theorem checked_of_not_repeatsName (h : ∀ index, ¬ gateway.RepeatsName index) :
    gateway.checked = Report.note (gateway.noticesBefore gateway.listeners.length) := by
  rw [checked_eq_of_passes le_rfl fun index _ => h index, List.drop_length, checkListeners]
  exact bind_pure _

theorem checked_of_repeatsName {listener : Listener}
    (hlistener : gateway.listeners[count]? = some listener) (hrepeats : gateway.RepeatsName count)
    (hfresh : ∀ index < count, ¬ gateway.RepeatsName index) :
    gateway.checked = ⟨gateway.noticesBefore count, .error (gateway.nameFault count listener)⟩ := by
  obtain ⟨hcount, rfl⟩ := List.getElem?_eq_some_iff.1 hlistener
  obtain ⟨_, hsame, hmem⟩ := hrepeats
  rw [hlistener, Option.some.injEq] at hsame
  subst hsame
  rw [← List.mem_reverse, ← List.map_reverse] at hmem
  rw [checked_eq_of_passes hcount.le hfresh, List.drop_eq_getElem_cons hcount,
    checkListeners_cons_of_mem hmem, Report.note, Report.mk_ok_bind, Report.fail, List.append_nil]

/-! What is noted -/

variable {notice : Notice}

/-- The last listener before a place that has a port is the first one on the way back. -/
theorem notesPort_of_noticeAt? (h : gateway.noticeAt? index = some notice) :
    gateway.NotesPort index notice := by
  obtain ⟨listener, hlistener, hnotice⟩ := Option.bind_eq_some_iff.1 h
  obtain ⟨first, hfound, rfl⟩ := Option.map_eq_some_iff.1 hnotice
  obtain ⟨hport, between, before, htaken, hbetween⟩ := List.find?_eq_some_iff_append.1 hfound
  refine ⟨before.reverse, first, between.reverse, listener, ?_, hlistener, by simpa using hport,
    ?_, rfl⟩
  · rw [← List.reverse_reverse (gateway.listeners.take index), htaken]
    simp
  · intro other hother
    simpa using hbetween other (List.mem_reverse.1 hother)

theorem exists_noticeAt?_iff :
    (∃ notice, gateway.noticeAt? index = some notice) ↔ gateway.RepeatsPort index := by
  rw [RepeatsPort, noticeAt?]
  cases hlistener : gateway.listeners[index]? with
  | none => simp
  | some listener =>
      simp only [Option.bind_some, portNotice?, Option.map_eq_some_iff, Option.some.injEq,
        exists_eq_left', List.mem_map]
      constructor
      · rintro ⟨_, first, hfound, _⟩
        exact ⟨first, List.mem_reverse.1 (List.mem_of_find?_eq_some hfound),
          by simpa using List.find?_some hfound⟩
      · rintro ⟨first, hfirst, hport⟩
        have hsome : ((gateway.listeners.take index).reverse.find?
            (·.port == listener.port)).isSome = true :=
          List.find?_isSome.2 ⟨first, List.mem_reverse.2 hfirst, beq_iff_eq.2 hport⟩
        obtain ⟨found, hfound⟩ := Option.isSome_iff_exists.1 hsome
        exact ⟨_, found, hfound, rfl⟩

/-- The listeners that are passed are those up to which no name is repeated. -/
theorem passes_iff (hfresh : ∀ index < count, ¬ gateway.RepeatsName index)
    (hend : count = gateway.listeners.length ∨ gateway.RepeatsName count)
    (hindex : index < gateway.listeners.length) :
    (∀ earlier ≤ index, ¬ gateway.RepeatsName earlier) ↔ index < count := by
  constructor
  · intro hbefore
    obtain rfl | hrepeats := hend
    · exact hindex
    · exact Nat.lt_of_not_le fun hle => hbefore count hle hrepeats
  · intro hlt earlier hle
    exact hfresh earlier (hle.trans_lt hlt)

theorem goThrough_noticesBefore (hfresh : ∀ index < count, ¬ gateway.RepeatsName index)
    (hend : count = gateway.listeners.length ∨ gateway.RepeatsName count) :
    Notice.GoThrough (· < ·)
      (fun index => gateway.RepeatsPort index ∧
        ∀ earlier ≤ index, ¬ gateway.RepeatsName earlier)
      gateway.NotesPort (gateway.noticesBefore count) := by
  apply Notice.goThrough_filterMap id
  · rw [List.map_id]
    exact List.pairwise_lt_range
  · intro index
    have hpasses (hport : gateway.RepeatsPort index) :
        (∀ earlier ≤ index, ¬ gateway.RepeatsName earlier) ↔ index < count := by
      obtain ⟨listener, hlistener, _⟩ := hport
      exact passes_iff hfresh hend (List.getElem?_eq_some_iff.1 hlistener).1
    rw [and_congr_right hpasses, and_comm]
    simp only [List.mem_range, exists_noticeAt?_iff, id_eq, ← and_assoc, exists_eq_right]
  · intro index _ notice
    exact notesPort_of_noticeAt?

/-- Of the listeners before a place, one for each port is not noted. -/
theorem length_noticesBefore_add_card (hcount : count ≤ gateway.listeners.length) :
    (gateway.noticesBefore count).length +
      ((gateway.listeners.take count).map (·.port)).toFinset.card = count := by
  induction count with
  | zero => rfl
  | succ count ih =>
      have hlistener := List.getElem?_eq_getElem hcount
      have hbefore := ih (Nat.le_of_succ_le hcount)
      have hports : ((gateway.listeners.take (count + 1)).map (·.port)).toFinset =
          insert (gateway.listeners[count]).port
            ((gateway.listeners.take count).map (·.port)).toFinset := by
        rw [← List.take_concat_get' _ count hcount, List.map_append, List.toFinset_append,
          Finset.insert_eq, Finset.union_comm]
        rfl
      rw [noticesBefore_succ, List.length_append, hports]
      cases hnotice : gateway.noticeAt? count with
      | none =>
          have hnew : (gateway.listeners[count]).port ∉
              ((gateway.listeners.take count).map (·.port)).toFinset := by
            rw [List.mem_toFinset]
            intro hmem
            obtain ⟨notice, hsome⟩ := exists_noticeAt?_iff.2 ⟨_, hlistener, hmem⟩
            rw [hnotice] at hsome
            cases hsome
          rw [Finset.card_insert_of_notMem hnew, Option.toList_none, List.length_nil]
          omega
      | some notice =>
          obtain ⟨listener, hsame, hmem⟩ := exists_noticeAt?_iff.1 ⟨notice, hnotice⟩
          rw [hlistener, Option.some.injEq] at hsame
          subst hsame
          rw [Finset.insert_eq_of_mem (List.mem_toFinset.2 hmem), Option.toList_some,
            List.length_singleton]
          omega

theorem not_nodup_of_repeatsName (h : gateway.RepeatsName index) :
    ¬ (gateway.listeners.map (·.name)).Nodup := by
  obtain ⟨listener, hlistener, hmem⟩ := h
  obtain ⟨hindex, rfl⟩ := List.getElem?_eq_some_iff.1 hlistener
  rw [← List.take_append_drop index gateway.listeners, List.drop_eq_getElem_cons hindex,
    List.map_append, List.map_cons, List.nodup_append]
  rintro ⟨_, _, hdiffer⟩
  exact hdiffer _ hmem _ List.mem_cons_self rfl

/-- The check of listeners finds the first name that is repeated, and notes the ports that are
repeated up to there. -/
theorem isChecked_of_checkListeners (gateway : Gateway) :
    gateway.IsChecked (checkListeners gateway 0 [] gateway.listeners) := by
  change gateway.IsChecked gateway.checked
  obtain ⟨count, hfresh, hend⟩ := gateway.exists_first_repeat
  have hnotices := goThrough_noticesBefore hfresh hend
  obtain rfl | hrepeats := hend
  · have hnone : ∀ index, ¬ gateway.RepeatsName index :=
      fun index h => hfresh index (lt_length_of_repeatsName h) h
    rw [checked_of_not_repeatsName hnone]
    refine ⟨?_, ?_, hnotices, ?_⟩
    · exact iff_of_false (by rintro ⟨_, ⟨⟩⟩) (not_exists.2 hnone)
    · intro fault h
      cases h
    · intro _
      have hlength : (gateway.noticesBefore gateway.listeners.length).length +
          ((gateway.listeners.take gateway.listeners.length).map (·.port)).toFinset.card =
            gateway.listeners.length := length_noticesBefore_add_card le_rfl
      rwa [List.take_length] at hlength
  · obtain ⟨listener, hlistener, _⟩ := id hrepeats
    rw [checked_of_repeatsName hlistener hrepeats hfresh]
    refine ⟨?_, ?_, hnotices, ?_⟩
    · exact iff_of_true ⟨_, rfl⟩ ⟨count, hrepeats⟩
    · rintro _ ⟨⟩
      exact ⟨count, listener, hlistener, hrepeats, hfresh, rfl⟩
    · intro hnodup
      exact absurd hnodup (not_nodup_of_repeatsName hrepeats)

end Gateway

end GatewayCompiler
