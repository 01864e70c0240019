import GatewayCompiler.Proofs.Outcome
import GatewayCompiler.Proofs.Table
import GatewayCompiler.Schema.Reader
import GatewayCompiler.Schema.Writer
import Mathlib.Data.List.Induction
import Mathlib.Data.String.Basic

/-!
# Values read back from their JSON form

The object that is written of a record holds for each field what the record has there, so each field
is read on its own, whatever other fields stand around it.  A record is read back when every field
is, and a type of values when every one of its records is.
-/

namespace GatewayCompiler

namespace Json

variable {fields : List (String × Json)}

theorem lookup_cons (field : String × Json) (rest : List (String × Json)) (name : String) :
    (field :: rest).lookup name = if name = field.1 then some field.2 else rest.lookup name := by
  rw [List.lookup_cons]
  by_cases hname : name = field.1
  · rw [if_pos hname, beq_iff_eq.2 hname]
  · rw [if_neg hname, beq_false_of_ne hname]

theorem mem_of_lookup {α : Type} {entries : List (String × α)} {name : String} {value : α}
    (h : entries.lookup name = some value) : (name, value) ∈ entries := by
  obtain ⟨before, after, rfl, _⟩ := List.lookup_eq_some_iff.1 h
  exact List.mem_append_right _ List.mem_cons_self

theorem lookup_insertField (key name : String) (value : Json) (fields : List (String × Json)) :
    (insertField key value fields).lookup name =
      if name = key then some value else fields.lookup name := by
  induction fields with
  | nil => rw [insertField, lookup_cons]
  | cons field rest ih =>
      rw [insertField, lookup_cons field]
      split
      · rw [lookup_cons, lookup_cons]
      · split
        · rename_i heq
          rw [lookup_cons, ← heq]
          split <;> rfl
        · rename_i hne
          rw [lookup_cons, ih]
          split
          · rename_i hname
            rw [hname, if_neg (Ne.symm hne)]
          · rfl

theorem mem_insertField {key : String} {value : Json} {field : String × Json}
    (h : field ∈ insertField key value fields) : field = (key, value) ∨ field ∈ fields := by
  induction fields with
  | nil => exact .inl (List.mem_singleton.1 h)
  | cons head rest ih =>
      rw [insertField] at h
      split at h
      · exact List.mem_cons.1 h
      · split at h
        · exact (List.mem_cons.1 h).imp_right (List.mem_cons_of_mem _)
        · obtain rfl | h := List.mem_cons.1 h
          · exact .inr List.mem_cons_self
          · exact (ih h).imp_right (List.mem_cons_of_mem _)

theorem pairwise_insertField {key : String} {value : Json}
    (h : fields.Pairwise fun a b => a.1 < b.1) :
    (insertField key value fields).Pairwise fun a b => a.1 < b.1 := by
  induction fields with
  | nil => exact List.pairwise_singleton _ _
  | cons head rest ih =>
      obtain ⟨hhead, hrest⟩ := List.pairwise_cons.1 h
      rw [insertField]
      split
      · rename_i hlt
        refine List.pairwise_cons.2 ⟨?_, h⟩
        intro field hfield
        obtain rfl | hfield := List.mem_cons.1 hfield
        · exact hlt
        · exact lt_trans hlt (hhead field hfield)
      · rename_i hge
        split
        · rename_i heq
          exact List.pairwise_cons.2 ⟨heq ▸ hhead, hrest⟩
        · rename_i hne
          refine List.pairwise_cons.2 ⟨?_, ih hrest⟩
          intro field hfield
          obtain rfl | hfield := mem_insertField hfield
          · exact lt_of_le_of_ne (not_lt.1 hge) (Ne.symm hne)
          · exact hhead field hfield

theorem lookup_of_mem {name : String} {value : Json} (hfields : fields.Pairwise fun a b => a.1 < b.1)
    (h : (name, value) ∈ fields) : fields.lookup name = some value := by
  induction fields with
  | nil => cases h
  | cons head rest ih =>
      obtain ⟨hhead, hrest⟩ := List.pairwise_cons.1 hfields
      rw [lookup_cons]
      obtain rfl | h := List.mem_cons.1 h
      · rw [if_pos rfl]
      · rw [if_neg (hhead _ h).ne', ih hrest h]

end Json

namespace Schema

/-- What a list of fields gives a name; of several fields of one name the last counts. -/
def written (fields : List (String × Json)) (name : String) : Option Json :=
  fields.reverse.lookup name

section Written

variable (name : String)

@[simp]
theorem written_nil : written [] name = none :=
  rfl

@[simp]
theorem written_append (first second : List (String × Json)) :
    written (first ++ second) name = (written second name).or (written first name) := by
  rw [written, List.reverse_append, List.lookup_append]
  rfl

@[simp]
theorem written_cons (field : String × Json) (rest : List (String × Json)) :
    written (field :: rest) name =
      (written rest name).or (if name = field.1 then some field.2 else none) := by
  rw [← List.singleton_append, written_append]
  exact congrArg _ (Json.lookup_cons field [] name)

@[simp]
theorem written_field (key : String) (value : Json) :
    written (Writer.field key value) name = if name = key then some value else none :=
  Json.lookup_cons _ _ _

@[simp]
theorem written_fieldIfSome (key : String) (value : Option Json) :
    written (Writer.fieldIfSome key value) name = if name = key then value else none := by
  cases value with
  | none => exact (ite_self _).symm
  | some value => exact Json.lookup_cons _ _ _

@[simp]
theorem written_ite (p : Prop) [Decidable p] (first second : List (String × Json)) :
    written (if p then first else second) name =
      if p then written first name else written second name :=
  apply_ite (written · name) p first second

end Written

/-- An object holds what its fields give every name, in ascending order of name. -/
theorem exists_ofFields (fields : List (String × Json)) :
    ∃ stored, Json.ofFields fields = .object stored ∧ stored.Pairwise (fun a b => a.1 < b.1) ∧
      ∀ name, stored.lookup name = written fields name := by
  refine ⟨_, rfl, ?_⟩
  induction fields using List.reverseRecOn with
  | nil => exact ⟨.nil, fun _ => rfl⟩
  | append_singleton fields field ih =>
      obtain ⟨hascending, hlookup⟩ := ih
      rw [List.foldl_append, List.foldl_cons, List.foldl_nil]
      refine ⟨Json.pairwise_insertField hascending, ?_⟩
      intro name
      rw [Json.lookup_insertField, hlookup, written_append, written_cons, written_nil]
      split <;> simp [*]

/-- A record that is read as this value where each of its fields is found. -/
structure Reads {α : Type} (record : Record α) (find? : String → Option Json) (value : α) :
    Prop where
  build_eq : ∀ missing, record.build ⟨find?, missing⟩ = .ok value
  checked : ∀ field ∈ record.fields, ∀ json, find? field.1 = some json → field.2 json = none

/-- Written values that are read again, and none of which is written as the absent value. -/
structure RoundTrips {α : Type} (write : α → Json) (read : Reader α) : Prop where
  read_write : ∀ value, read (write value) = .ok value
  write_ne_null : ∀ value, write value ≠ .null

variable {α β : Type} {read : Reader α} {write : α → Json} {name : String}
  {find? : String → Option Json}

/-- Lists are read back when their members are. -/
theorem RoundTrips.list (hread : RoundTrips write read) :
    RoundTrips (Writer.list write) (Reader.list read) where
  read_write values := by
    change (values.map write).mapM read = .ok values
    rw [mapM_eq_ok_iff, List.forall₂_map_left_iff, List.forall₂_same]
    exact fun value _ => hread.read_write value
  write_ne_null _ h := nomatch h

theorem Reader.option_of_ne_null {json : Json} (h : json ≠ .null) :
    Reader.option read json = (read json).map some := by
  cases json <;> first | rfl | exact absurd rfl h

namespace Record

theorem fault?_of_ok {json : Json} {value : α} (h : read json = .ok value) :
    fault? read json = none := by
  rw [fault?, h]

theorem checkFields_eq_ok {checks : List (String × (Json → Option Mismatch))}
    {fields : List (String × Json)} (h : ∀ field ∈ fields, ∀ check, (field.1, check) ∈ checks →
      check field.2 = none) : checkFields checks fields = .ok () := by
  induction fields with
  | nil => rfl
  | cons field rest ih =>
      have hrest := ih fun other hother => h other (List.mem_cons_of_mem field hother)
      rw [checkFields]
      cases hcheck : checks.lookup field.1 with
      | none => exact hrest
      | some check =>
          simp only [h field List.mem_cons_self check (Json.mem_of_lookup hcheck)]
          exact hrest

end Record

namespace Reads

variable {record : Record α}

/-- A record is read from the object of its fields. -/
theorem reader_ofFields {fields : List (String × Json)} {value : α} (typeName : String)
    (h : Reads record (written fields) value) :
    Record.reader typeName record (.ofFields fields) = .ok value := by
  obtain ⟨stored, hstored, hascending, hlookup⟩ := exists_ofFields fields
  -- The values are checked in the order of the object, before the record is built of them.
  have hchecked : Record.checkFields record.fields stored = .ok () := by
    apply Record.checkFields_eq_ok
    intro field hfield check hcheck
    apply h.checked (field.1, check) hcheck
    rw [← hlookup]
    exact Json.lookup_of_mem hascending hfield
  have hbuild : record.build (Record.ofObject stored) = .ok value := by
    rw [Record.ofObject]
    simp only [hlookup]
    exact h.build_eq _
  rw [hstored, Record.reader, hchecked, ok_bind, hbuild]

theorem pure (value : α) : Reads (Pure.pure value) find? value :=
  ⟨fun _ => rfl, fun _ h => nomatch h⟩

theorem seq {f : Record (α → β)} {g : α → β} {value : α} (hf : Reads f find? g)
    (hvalue : Reads record find? value) : Reads (f <*> record) find? (g value) where
  build_eq missing := by
    change (f.build _ >>= fun g => record.build _ >>= fun a => .ok (g a)) = _
    rw [hf.build_eq, ok_bind, hvalue.build_eq, ok_bind]
  checked field hfield := by
    obtain hfield | hfield := List.mem_append.1 hfield
    · exact hf.checked field hfield
    · exact hvalue.checked field hfield

theorem map {value : α} (hvalue : Reads record find? value) (f : α → β) :
    Reads (f <$> record) find? (f value) :=
  (pure f).seq hvalue

theorem required_of_ok {json : Json} {value : α} (hfind : find? name = some json)
    (hread : read json = .ok value) : Reads (.required name read) find? value where
  build_eq missing := by
    simp only [Record.required, hfind]
    exact hread
  checked field hfield found hfound := by
    obtain rfl := List.mem_singleton.1 hfield
    rw [hfind, Option.some.injEq] at hfound
    subst hfound
    exact Record.fault?_of_ok hread

theorem withDefault_of_ok {json : Json} {default value : α} (hfind : find? name = some json)
    (hread : read json = .ok value) : Reads (.withDefault name read default) find? value where
  build_eq missing := by
    simp only [Record.withDefault, hfind]
    exact hread
  checked := (required_of_ok hfind hread).checked

/-- A field that was left out has its default. -/
theorem withDefault_of_none {default : α} (hfind : find? name = none) :
    Reads (.withDefault name read default) find? default where
  build_eq missing := by
    simp only [Record.withDefault, hfind]
  checked field hfield found hfound := by
    obtain rfl := List.mem_singleton.1 hfield
    rw [hfind] at hfound
    cases hfound

theorem required {value : α} (hread : RoundTrips write read)
    (hfind : find? name = some (write value)) : Reads (.required name read) find? value :=
  required_of_ok hfind (hread.read_write value)

theorem withDefault {default value : α} (hread : RoundTrips write read)
    (hfind : find? name = some (write value)) :
    Reads (.withDefault name read default) find? value :=
  withDefault_of_ok hfind (hread.read_write value)

/-- An optional field that is written as the absent value when there is nothing in it. -/
theorem nullable {value : Option α} (hread : RoundTrips write read)
    (hfind : find? name = some (Writer.option write value)) :
    Reads (.optional name read) find? value := by
  apply withDefault_of_ok hfind
  cases value with
  | none => rfl
  | some value =>
      rw [Writer.option, Reader.option_of_ne_null (hread.write_ne_null value),
        hread.read_write value]
      rfl

/-- An optional field that is left out when there is nothing in it. -/
theorem ifSome {value : Option α} (hread : RoundTrips write read)
    (hfind : find? name = value.map write) : Reads (.optional name read) find? value := by
  cases value with
  | none => exact withDefault_of_none hfind
  | some value => exact nullable hread hfind

theorem list {values : List α} (hread : RoundTrips write read)
    (hfind : find? name = some (Writer.list write values)) :
    Reads (.list name read) find? values :=
  withDefault hread.list hfind

end Reads

namespace RoundTrips

theorem string : RoundTrips Json.string Reader.string :=
  ⟨fun _ => rfl, fun _ h => nomatch h⟩

theorem natBelow_of_lt {n bound : Nat} (expected : String) (h : n < bound) :
    Reader.natBelow bound expected (.int n) = .ok n := by
  rw [Reader.natBelow, if_pos ⟨Int.natCast_nonneg n, Int.ofNat_lt.2 h⟩, Int.toNat_natCast]

theorem uint16 : RoundTrips Writer.uint16 Reader.uint16 where
  read_write n := by
    rw [Writer.uint16, Reader.uint16, natBelow_of_lt "u16" n.toNat_lt]
    exact congrArg Except.ok n.ofNat_toNat
  write_ne_null _ h := nomatch h

theorem uint32 : RoundTrips Writer.uint32 Reader.uint32 where
  read_write n := by
    rw [Writer.uint32, Reader.uint32, natBelow_of_lt "u32" n.toNat_lt]
    exact congrArg Except.ok n.ofNat_toNat
  write_ne_null _ h := nomatch h

/-- Tables are read back when their values are. -/
theorem table (hread : RoundTrips write read) :
    RoundTrips (fun table : Table String α =>
      .object (table.entries.map fun entry => (entry.1, write entry.2))) (Reader.table read) where
  read_write table := by
    have hentries : (table.entries.map fun entry => (entry.1, write entry.2)).mapM
        (Reader.entry read) = .ok table.entries := by
      rw [mapM_eq_ok_iff, List.forall₂_map_left_iff, List.forall₂_same]
      intro entry _
      rw [Reader.entry, hread.read_write]
      rfl
    rw [Reader.table, hentries]
    exact congrArg Except.ok table.ofList_entries
  write_ne_null _ h := nomatch h

theorem stringTable : RoundTrips Writer.stringTable Reader.stringTable :=
  table string

/-- Every value of an enumeration has a word, and no other value has that word. -/
theorem enumeration [BEq α] {words : List (String × α)}
    (hwords : ∀ value, ∃ word, words.find? (·.2 == value) = some (word, value) ∧
      words.lookup word = some value) :
    RoundTrips (Writer.enumeration words) (Reader.enumeration words) where
  read_write value := by
    obtain ⟨word, hword, hvalue⟩ := hwords value
    rw [Writer.enumeration, hword]
    change Reader.word words word = _
    rw [Reader.word, hvalue]
  write_ne_null _ h := nomatch h

/-- Records that are read from their fields are read from the objects of these. -/
theorem record {record : Record α} {typeName : String} {fieldsOf : α → List (String × Json)}
    (h : ∀ value, Reads record (written (fieldsOf value)) value) :
    RoundTrips (fun value => .ofFields (fieldsOf value)) (Record.reader typeName record) where
  read_write value := (h value).reader_ofFields typeName
  write_ne_null _ h := nomatch h

end RoundTrips

end Schema

end GatewayCompiler
