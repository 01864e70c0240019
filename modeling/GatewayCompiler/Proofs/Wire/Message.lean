import GatewayCompiler.Proofs.Wire.Field
import GatewayCompiler.Wire.Message
import Mathlib.Data.List.Nodup

/-!
# Messages read back

A message is made of parts that are told apart by the numbers of their fields, so each part is read
as it was written whatever fields of other numbers stand around it.  Parts in a row are one part
again; a part that is a whole message is read back from it.
-/

namespace GatewayCompiler

theorem Text.ofUtf8?_utf8 (s : String) : Text.ofUtf8? (Text.utf8 s) = some s := by
  have hbytes : (⟨s.toUTF8.data.toList.toArray⟩ : ByteArray) = s.toUTF8 := rfl
  rw [ofUtf8?, utf8, hbytes, String.toUTF8_eq_toByteArray, String.fromUTF8?, dif_pos s.isValidUTF8]
  rfl

theorem Text.ofUtf8?_eq_some_iff {bytes : List UInt8} {text : String} :
    Text.ofUtf8? bytes = some text ↔ bytes = Text.utf8 text := by
  constructor
  · intro h
    rw [ofUtf8?, String.fromUTF8?] at h
    split at h
    · cases h
      rfl
    · cases h
  · rintro rfl
    exact ofUtf8?_utf8 text

namespace Wire

/-- What is always present within an optional part is present just when the part is. -/
@[simp]
theorem join_map_some {α : Type} (value : Option α) : (value.map some).join = value := by
  cases value <;> rfl

theorem Write.optional_map {α β : Type} (write : β → Fields) (f : α → β) (value : Option α) :
    optional write (value.map f) = optional (fun v => write (f v)) value := by
  cases value <;> rfl

theorem encode_append (first second : Fields) :
    encode (first ++ second) = encode first ++ encode second :=
  List.flatMap_append

theorem Read.asString_utf8 (s : String) : Read.asString (.bytes (Text.utf8 s)) = some s := by
  rw [asString, asBytes, Option.bind_some, Text.ofUtf8?_utf8]

/-- Fields that can be written and that are read as this value. -/
structure Reads {α : Type} (read : Fields → Option α) (fields : Fields) (value : α) : Prop where
  areValid : fields.AreValid
  read_eq : read fields = some value

namespace Reads

/-- A message without parts is present or absent, and says no more. -/
theorem empty : Reads (fun _ => some ()) [] () :=
  ⟨Fields.areValid_nil, rfl⟩

variable {α : Type} {read : Fields → Option α} {fields : Fields} {value : α}

/-- A value is read back from the bytes of its fields. -/
theorem decode_encode (h : Reads read fields value) :
    (decode (encode fields)).bind read = some value := by
  rw [Wire.decode_encode h.areValid, Option.bind_some, h.read_eq]

theorem asFields_bind (h : Reads read fields value) :
    (Read.asFields (.bytes (encode fields))).bind read = some value :=
  h.decode_encode

theorem merged_eq (h : Reads read fields value) :
    Read.merged [.bytes (encode fields)] = some fields := by
  simp [Read.merged, Read.asFields, Read.asBytes, Wire.decode_encode h.areValid]

end Reads

namespace Fields

/-- The fields with these numbers. -/
def among (numbers : List Nat) (fields : Fields) : Fields :=
  fields.filter (numbers.contains ·.number)

variable {numbers more : List Nat} {fields : Fields}

theorem among_append (first second : Fields) :
    Fields.among numbers (first ++ second) = first.among numbers ++ second.among numbers :=
  List.filter_append ..

theorem among_eq_self (h : ∀ field ∈ fields, field.number ∈ numbers) :
    fields.among numbers = fields := by
  apply List.filter_eq_self.2
  intro field hfield
  exact List.contains_iff_mem.2 (h field hfield)

theorem among_eq_nil (h : ∀ field ∈ fields, field.number ∉ numbers) :
    fields.among numbers = [] := by
  apply List.filter_eq_nil_iff.2
  intro field hfield hcontains
  exact h field hfield (List.contains_iff_mem.1 hcontains)

theorem among_among (h : numbers ⊆ more) :
    (fields.among more).among numbers = fields.among numbers := by
  rw [among, among, List.filter_filter, among]
  apply List.filter_congr
  intro field _
  simp only [List.contains_eq_mem, ← Bool.decide_and]
  exact decide_eq_decide.2 ⟨And.left, fun hmem => ⟨hmem, h hmem⟩⟩

end Fields

/-- A choice looks at the fields that have the number of one of its members. -/
theorem Read.isSome_lookup {α : Type} (members : List (Nat × Read.Member α)) (n : Nat) :
    (members.lookup n).isSome = (members.map (·.1)).contains n := by
  induction members with
  | nil => rfl
  | cons member members ih =>
      rw [List.lookup_cons, List.map_cons, List.contains_cons, ← ih]
      cases n == member.1 <;> rfl

/-- A field that makes a choice: the member of its number reads it as this value. -/
inductive Chooses {α : Type} (members : List (Nat × Read.Member α)) : Fields → α → Prop where
  | intro {number : Nat} {payload : Payload} {member : Read.Member α} {value : α} :
    payload.IsValid → members.lookup number = some member → member [payload] = some value →
    Chooses members [⟨number, payload⟩] value

namespace Chooses

variable {α β : Type} {members : List (Nat × Read.Member α)} {n : Nat}

theorem string {make : String → α} (s : String)
    (hmember : members.lookup n = some (Read.scalarMember Read.asString make)) :
    Chooses members (Write.presentString n s) (make s) := by
  apply intro _ hmember
  · simp [Read.scalarMember, Read.asString_utf8]
  · trivial

theorem bytes {make : Bytes → α} (value : Bytes)
    (hmember : members.lookup n = some (Read.scalarMember Read.asBytes make)) :
    Chooses members (Write.presentBytes n value) (make value) := by
  apply intro _ hmember
  · rfl
  · trivial

theorem uint32 {make : UInt32 → α} (value : UInt32)
    (hmember : members.lookup n = some (Read.scalarMember Read.asUInt32 make)) :
    Chooses members (Write.presentNumber n value.toNat) (make value) := by
  apply intro _ hmember
  · simp [Read.scalarMember, Read.asUInt32]
  · exact Nat.lt_trans value.toNat_lt (by decide)

theorem bool {make : Bool → α} (value : Bool)
    (hmember : members.lookup n = some (Read.scalarMember Read.asBool make)) :
    Chooses members (Write.presentNumber n value.toNat) (make value) := by
  apply intro _ hmember
  · cases value <;> rfl
  · exact Nat.lt_trans (Bool.toNat_lt value) (by decide)

theorem message {read : Fields → Option β} {make : β → α} {fields : Fields} {value : β}
    (hread : Reads read fields value)
    (hmember : members.lookup n = some (Read.messageMember read make)) :
    Chooses members (Write.message n fields) (make value) := by
  apply intro _ hmember
  · simp [Read.messageMember, hread.merged_eq, hread.read_eq]
  · trivial

end Chooses

/-- Numbers that the fields of one message may have: each is valid and stands for itself. -/
def AreNumbers (numbers : List Nat) : Prop :=
  numbers.Nodup ∧ ∀ number ∈ numbers, IsNumber number

instance (numbers : List Nat) : Decidable (AreNumbers numbers) :=
  inferInstanceAs (Decidable (_ ∧ _))

/-- A part of a message, with fields of these numbers: `Q` says what is read from any fields of which
those with these numbers are the part. -/
structure IsPart (numbers : List Nat) (part : Fields) (Q : Fields → Prop) : Prop where
  within : ∀ field ∈ part, field.number ∈ numbers
  isValid : ∀ field ∈ part, field.payload.IsValid
  holds : numbers.Nodup → ∀ fields : Fields, fields.among numbers = part → Q fields

namespace IsPart

variable {numbers numbers' : List Nat} {part part' : Fields} {Q Q' : Fields → Prop}

theorem imp (h : IsPart numbers part Q) (hQ : ∀ fields, Q fields → Q' fields) :
    IsPart numbers part Q' :=
  ⟨h.within, h.isValid, fun hnodup fields hfields => hQ fields (h.holds hnodup fields hfields)⟩

/-- Parts with different numbers do not disturb each other. -/
theorem append (h : IsPart numbers part Q) (h' : IsPart numbers' part' Q') :
    IsPart (numbers ++ numbers') (part ++ part') fun fields => Q fields ∧ Q' fields where
  within := by
    intro field hfield
    apply List.mem_append.2
    exact (List.mem_append.1 hfield).imp (h.within field) (h'.within field)
  isValid := List.forall_mem_append.2 ⟨h.isValid, h'.isValid⟩
  holds := by
    intro hnodup fields hfields
    obtain ⟨hnumbers, hnumbers', hdisjoint⟩ := List.nodup_append'.1 hnodup
    constructor
    · apply h.holds hnumbers
      have hothers : Fields.among numbers part' = [] :=
        Fields.among_eq_nil fun field hfield hmem => hdisjoint hmem (h'.within field hfield)
      rw [← Fields.among_among (List.subset_append_left numbers numbers'), hfields,
        Fields.among_append, Fields.among_eq_self h.within, hothers, List.append_nil]
    · apply h'.holds hnumbers'
      have hothers : Fields.among numbers' part = [] :=
        Fields.among_eq_nil fun field hfield hmem => hdisjoint (h.within field hfield) hmem
      rw [← Fields.among_among (List.subset_append_right numbers numbers'), hfields,
        Fields.among_append, Fields.among_eq_self h'.within, hothers, List.nil_append]

/-- A part that is all of a message. -/
theorem reads {α : Type} {read : Fields → Option α} {value : α} (h : IsPart numbers part Q)
    (hnumbers : AreNumbers numbers) (hread : ∀ fields, Q fields → read fields = some value) :
    Reads read part value where
  areValid := fun field hfield =>
    ⟨hnumbers.2 field.number (h.within field hfield), h.isValid field hfield⟩
  read_eq := hread part (h.holds hnumbers.1 part (Fields.among_eq_self h.within))

/-- The fields of one number. -/
theorem ofPayloads {n : Nat} (payloads : List Payload)
    (hvalid : ∀ payload ∈ payloads, payload.IsValid)
    (hholds : ∀ fields, Read.payloads n fields = payloads → Q fields) :
    IsPart [n] (payloads.map (⟨n, ·⟩)) Q where
  within := by simp
  isValid := by simpa using hvalid
  holds := by
    intro _ fields hfields
    apply hholds
    have hamong : fields.filter (·.number == n) = fields.among [n] := by
      apply List.filter_congr
      intro field _
      simp [beq_eq_decide]
    rw [Read.payloads, hamong, hfields, List.map_map]
    exact List.map_id payloads

variable {α β : Type} {n : Nat}

/-- A scalar that is written whatever its value. -/
theorem presentScalar {payload : Payload} {read : Payload → Option α} {default value : α}
    (hvalid : payload.IsValid) (hread : read payload = some value) :
    IsPart [n] [⟨n, payload⟩] fun fields => Read.scalar read default n fields = some value := by
  apply ofPayloads [payload]
  · simpa using hvalid
  · intro fields hfields
    simp [Read.scalar, hfields, hread]

/-- A scalar that is left out only when it has its default value. -/
theorem scalar {isDefault : Prop} [Decidable isDefault] {payload : Payload}
    {read : Payload → Option α} {default value : α} (hvalid : payload.IsValid)
    (hread : read payload = some value) (hdefault : isDefault → default = value) :
    IsPart [n] (if isDefault then [] else [⟨n, payload⟩]) fun fields =>
      Read.scalar read default n fields = some value := by
  by_cases h : isDefault
  · rw [if_pos h]
    apply ofPayloads []
    · simp
    · intro fields hfields
      simp [Read.scalar, hfields, hdefault h]
  · rw [if_neg h]
    exact presentScalar hvalid hread

theorem string (n : Nat) (s : String) :
    IsPart [n] (Write.string n s) fun fields => Read.string n fields = some s := by
  apply scalar
  · trivial
  · exact Read.asString_utf8 s
  · exact Eq.symm

theorem bytes (n : Nat) (value : Bytes) :
    IsPart [n] (Write.bytes n value) fun fields =>
      Read.scalar Read.asBytes [] n fields = some value := by
  apply scalar
  · trivial
  · rfl
  · exact Eq.symm

theorem uint32 (n : Nat) (value : UInt32) :
    IsPart [n] (Write.number n value.toNat) fun fields =>
      Read.scalar Read.asUInt32 0 n fields = some value := by
  apply scalar
  · exact Nat.lt_trans value.toNat_lt (by decide)
  · rw [Read.asUInt32, UInt32.ofNat_toNat]
  · intro hzero
    exact UInt32.toNat_inj.1 hzero.symm

theorem uint64 (n : Nat) (value : UInt64) :
    IsPart [n] (Write.number n value.toNat) fun fields =>
      Read.scalar Read.asUInt64 0 n fields = some value := by
  apply scalar
  · exact value.toNat_lt
  · rw [Read.asUInt64, UInt64.ofNat_toNat]
  · intro hzero
    exact UInt64.toNat_inj.1 hzero.symm

/-- The values of a repeated field, each as one payload. -/
theorem each {write : α → Payload} {read : Payload → Option β} {f : α → β} (values : List α)
    (hvalid : ∀ value, (write value).IsValid)
    (hread : ∀ value, read (write value) = some (f value)) :
    IsPart [n] (values.flatMap fun value => [⟨n, write value⟩]) fun fields =>
      (Read.payloads n fields).mapM read = some (values.map f) := by
  have hparts : (values.flatMap fun value => [⟨n, write value⟩] : Fields) =
      (values.map write).map (⟨n, ·⟩) := by
    rw [List.map_map, List.map_eq_flatMap]
    rfl
  rw [hparts]
  apply ofPayloads
  · exact List.forall_mem_map.2 fun value _ => hvalid value
  · intro fields hfields
    rw [hfields]
    clear hfields hparts
    induction values with
    | nil => rfl
    | cons value values ih => simp [hread, ih]

theorem strings (n : Nat) (values : List String) :
    IsPart [n] (Write.strings n values) fun fields => Read.strings n fields = some values := by
  have hvalid (s : String) : Payload.IsValid (.bytes (Text.utf8 s)) := trivial
  have hread (s : String) : Read.asString (.bytes (Text.utf8 s)) = some (id s) :=
    Read.asString_utf8 s
  have hparts := each (n := n) values hvalid hread
  rwa [List.map_id] at hparts

/-- Messages that are read as something made of what was written. -/
theorem repeatedAs {read : Fields → Option β} {write : α → Fields} {f : α → β} (n : Nat)
    (values : List α) (hread : ∀ value, Reads read (write value) (f value)) :
    IsPart [n] (Write.repeated n write values) fun fields =>
      Read.repeated read n fields = some (values.map f) := by
  apply each
  · intro value
    trivial
  · intro value
    exact (hread value).asFields_bind

theorem repeated {read : Fields → Option α} {write : α → Fields} (n : Nat) (values : List α)
    (hread : ∀ value, Reads read (write value) value) :
    IsPart [n] (Write.repeated n write values) fun fields =>
      Read.repeated read n fields = some values := by
  have hparts := repeatedAs (f := id) n values hread
  rwa [List.map_id] at hparts

/-- A message that is always written. -/
theorem message {read : Fields → Option α} {fields : Fields} {value : α} (n : Nat)
    (hread : Reads read fields value) :
    IsPart [n] (Write.message n fields) fun fields =>
      Read.message read n fields = some (some value) := by
  apply ofPayloads [.bytes (encode fields)]
  · simp [Payload.IsValid]
  · intro fields hfields
    simp [Read.message, hfields, hread.merged_eq, hread.read_eq]

theorem optional {read : Fields → Option β} {write : α → Fields} {f : α → β} (n : Nat)
    (value : Option α) (hread : ∀ v, Reads read (write v) (f v)) :
    IsPart [n] (Write.optional (fun v => Write.message n (write v)) value) fun fields =>
      Read.message read n fields = some (value.map f) := by
  cases value with
  | some v => exact message n (hread v)
  | none =>
      apply ofPayloads []
      · simp
      · intro fields hfields
        rw [Read.message, hfields]
        rfl

/-- A message that is left out only when it is the default. -/
theorem mapValue {read : Fields → Option α} {fields : Fields} {default value : α} (n : Nat)
    (hread : Reads read fields value) (hdefault : fields = [] → default = value) :
    IsPart [n] (Write.mapValue n fields) fun fields =>
      (Read.message read n fields).map (·.getD default) = some value := by
  by_cases h : fields = []
  · rw [Write.mapValue, if_pos h]
    apply ofPayloads []
    · simp
    · intro others hothers
      simp [Read.message, hothers, hdefault h]
  · rw [Write.mapValue, if_neg h]
    apply (message n hread).imp
    intro others hmessage
    rw [hmessage, Option.map_some, Option.getD_some]

/-- A choice that is made. -/
theorem chosen {members : List (Nat × Read.Member α)} {value : α}
    (hchooses : Chooses members part value) :
    IsPart (members.map (·.1)) part fun fields =>
      Read.choice members fields = some (some value) := by
  obtain ⟨hvalid, hmember, hread⟩ := hchooses
  constructor
  · intro field hfield
    rw [List.mem_singleton.1 hfield, ← List.contains_iff_mem, ← Read.isSome_lookup, hmember]
    rfl
  · simpa using hvalid
  · intro _ fields hfields
    simp only [Fields.among, ← Read.isSome_lookup] at hfields
    simp [Read.choice, hfields, Read.runs, hmember, hread]

/-- A choice of which at most one member is written. -/
theorem choice {members : List (Nat × Read.Member β)} {write : α → Fields} {f : α → β}
    (value : Option α) (hchooses : ∀ v, Chooses members (write v) (f v)) :
    IsPart (members.map (·.1)) (Write.optional write value) fun fields =>
      Read.choice members fields = some (value.map f) := by
  cases value with
  | some v => exact chosen (hchooses v)
  | none =>
      constructor
      · simp [Write.optional]
      · simp [Write.optional]
      · intro _ fields hfields
        simp only [Fields.among, ← Read.isSome_lookup] at hfields
        simp [Read.choice, hfields, Write.optional, Read.runs]

/-- A string that is written even when it is empty, as the only member of its choice. -/
theorem presentString (n : Nat) (value : Option String) :
    IsPart [n] (Write.optional (Write.presentString n) value) fun fields =>
      Read.choice [(n, Read.scalarMember Read.asString id)] fields = some value := by
  have hchooses (s : String) :
      Chooses [(n, Read.scalarMember Read.asString id)] (Write.presentString n s) (id s) :=
    .string s (by simp)
  simpa using choice value hchooses

end IsPart

end Wire

end GatewayCompiler
