import GatewayCompiler.Wire.Field
import Mathlib.Algebra.Group.Nat.Defs

/-!
# Fields read back

Fields that are written as bytes are read back from them: every number, key and length is followed
by just the bytes that were written after it.  The length of a field has no bound of its own, the
numbers that a field holds have.
-/

namespace GatewayCompiler.Wire

theorem toNat_ofNat {n : Nat} (h : n < 256) : (UInt8.ofNat n).toNat = n := by
  rw [UInt8.toNat_ofNat', Nat.mod_eq_of_lt h]

theorem readNumber_varint (n : Nat) (rest : Bytes) :
    readNumber (varint n ++ rest) = some (n, rest) := by
  induction n using varint.induct with
  | case1 n hsmall =>
      have hbyte : (UInt8.ofNat n).toNat = n := toNat_ofNat (by omega)
      rw [varint, if_pos hsmall, List.singleton_append, readNumber]
      simp only [hbyte, if_pos hsmall]
  | case2 n hlarge ih =>
      have hbyte : (UInt8.ofNat (n % 128 + 128)).toNat = n % 128 + 128 := toNat_ofNat (by omega)
      have hcontinues : ¬ n % 128 + 128 < 128 := by omega
      have hvalue : n % 128 + 128 - 128 + 128 * (n / 128) = n := by omega
      rw [varint, if_neg hlarge, List.cons_append, readNumber]
      simp only [hbyte, if_neg hcontinues, ih, Option.map_some, hvalue]

/-- Of a number whose first bytes have been read the rest is read when the whole fits 64 bits, and
refused when it does not. -/
theorem readVarint_varint (index n : Nat) (rest : Bytes) (hindex : index ≤ 9) :
    readVarint index (varint n ++ rest) =
      if n < 2 ^ (64 - 7 * index) then some (n, rest) else none := by
  induction n using varint.induct generalizing index with
  | case1 n hsmall =>
      have hbyte : (UInt8.ofNat n).toNat = n := toNat_ofNat (by omega)
      rw [varint, if_pos hsmall, List.singleton_append, readVarint]
      simp only [hbyte, if_pos hsmall]
      -- The tenth byte of a number has room for its last bit alone.
      by_cases hlast : index = 9
      · subst hlast
        by_cases hfits : n < 2 <;> simp [hfits]
      · have hpow : 2 ^ 7 ≤ 2 ^ (64 - 7 * index) := Nat.pow_le_pow_right (by decide) (by omega)
        rw [if_neg (by simp [hlast]), if_pos (by omega)]
  | case2 n hlarge ih =>
      have hbyte : (UInt8.ofNat (n % 128 + 128)).toNat = n % 128 + 128 := toNat_ofNat (by omega)
      have hcontinues : ¬ n % 128 + 128 < 128 := by omega
      have hvalue : n % 128 + 128 - 128 + 128 * (n / 128) = n := by omega
      rw [varint, if_neg hlarge, List.cons_append, readVarint]
      simp only [hbyte, if_neg hcontinues]
      by_cases hlast : 9 ≤ index
      · obtain rfl : index = 9 := by omega
        rw [if_pos hlast, if_neg (by omega)]
      · have hpow : 2 ^ (64 - 7 * index) = 2 ^ (64 - 7 * (index + 1)) * 128 := by
          have hexp : 64 - 7 * index = 64 - 7 * (index + 1) + 7 := by omega
          rw [hexp, Nat.pow_add]
        have hfits : n / 128 < 2 ^ (64 - 7 * (index + 1)) ↔ n < 2 ^ (64 - 7 * index) := by
          rw [hpow, Nat.div_lt_iff_lt_mul (by decide)]
        rw [if_neg hlast, ih (index + 1) (by omega)]
        simp only [hfits]
        by_cases hn : n < 2 ^ (64 - 7 * index)
        · rw [if_pos hn, if_pos hn, Option.map_some, hvalue]
        · rw [if_neg hn, if_neg hn, Option.map_none]

theorem readVarint_zero_varint (n : Nat) (rest : Bytes) :
    readVarint 0 (varint n ++ rest) = if n < UInt64.size then some (n, rest) else none :=
  readVarint_varint 0 n rest (Nat.zero_le 9)

theorem readVarint_varint_of_lt {n : Nat} (rest : Bytes) (h : n < UInt64.size) :
    readVarint 0 (varint n ++ rest) = some (n, rest) := by
  rw [readVarint_zero_varint, if_pos h]

theorem readLength_varint (n : Nat) (rest : Bytes) :
    readLength (varint n ++ rest) = some (n, rest) := by
  rw [readLength, readVarint_zero_varint, readNumber_varint]
  by_cases hfits : n < UInt64.size
  · rw [if_pos hfits]
    rfl
  · rw [if_neg hfits, Option.none_or]
    simpa using hfits

theorem takeBytes_append (bytes rest : Bytes) :
    takeBytes bytes.length (bytes ++ rest) = some (bytes, rest) := by
  simp [takeBytes]

theorem varint_ne_nil (n : Nat) : varint n ≠ [] := by
  rw [varint]
  split <;> simp

/-- The numbers that a field may have: with any wire type, its key has 32 bits. -/
def IsNumber (number : Nat) : Prop :=
  0 < number ∧ number * 8 + 7 < UInt32.size

instance (number : Nat) : Decidable (IsNumber number) :=
  inferInstanceAs (Decidable (_ ∧ _))

theorem readKey_key {number wireType : Nat} (hnumber : IsNumber number) (htype : wireType < 8)
    (rest : Bytes) : readKey (key number wireType ++ rest) = some (number, wireType, rest) := by
  obtain ⟨hpos, hlt⟩ := hnumber
  have hdiv : (number * 8 + wireType) / 8 = number := by omega
  have hmod : (number * 8 + wireType) % 8 = wireType := by omega
  have hvalid : number * 8 + wireType < UInt32.size ∧ number ≠ 0 := by omega
  have hfits : number * 8 + wireType < UInt64.size := Nat.lt_trans hvalid.1 (by decide)
  rw [readKey, key, readVarint_varint_of_lt rest hfits, Option.bind_eq_bind, Option.bind_some]
  simp only [hdiv, hmod, if_pos hvalid]

/-- The payloads that their wire type can hold. -/
def Payload.IsValid : Payload → Prop
  | .varint value => value < UInt64.size
  | .fixed64 contents => contents.length = 8
  | .bytes _ => True
  | .group => True
  | .fixed32 contents => contents.length = 4

structure Field.IsValid (field : Field) : Prop where
  number : IsNumber field.number
  payload : field.payload.IsValid

/-- Fields that can be written. -/
def Fields.AreValid (fields : Fields) : Prop :=
  ∀ field ∈ fields, field.IsValid

@[simp]
theorem Fields.areValid_nil : Fields.AreValid [] :=
  List.forall_mem_nil _

/-- How often a field is met by the reader: a group is met where it starts and where it ends. -/
def Payload.visits : Payload → Nat
  | .group => 2
  | _ => 1

theorem key_ne_nil (number wireType : Nat) : key number wireType ≠ [] :=
  varint_ne_nil _

theorem Field.visits_le_length_encode (field : Field) :
    field.payload.visits ≤ field.encode.length := by
  have hkey : ∀ wireType, 0 < (key field.number wireType).length := fun wireType =>
    List.length_pos_iff.2 (key_ne_nil field.number wireType)
  have hstart := hkey field.payload.wireType
  have hend := hkey 4
  rw [encode, List.length_append]
  cases hpayload : field.payload with
  | group =>
      rw [hpayload] at hstart
      simp only [Payload.visits]
      omega
  | _ =>
      rw [hpayload] at hstart
      simp only [Payload.visits]
      omega

/-- Outside every group, a field that was written is the next field read. -/
theorem readFields_encode_append {field : Field} (h : field.IsValid) (fuel : Nat) (rest : Bytes) :
    readFields (fuel + field.payload.visits) [] (field.encode ++ rest) =
      (readFields fuel [] rest).map (field :: ·) := by
  obtain ⟨number, payload⟩ := field
  obtain ⟨hnumber, hpayload⟩ := h
  have hne : ∀ wireType (rest : Bytes), key number wireType ++ rest ≠ [] := fun wireType rest =>
    List.append_ne_nil_of_left_ne_nil (key_ne_nil number wireType) rest
  have hkey : ∀ wireType, wireType < 8 → ∀ rest : Bytes,
      readKey (key number wireType ++ rest) = some (number, wireType, rest) :=
    fun wireType htype rest => readKey_key hnumber htype rest
  cases payload with
  | varint value =>
      simp only [Field.encode, Payload.visits, Payload.wireType, List.append_assoc]
      rw [readFields.eq_3 _ _ _ (hne _ _), hkey 0 (by decide)]
      simp only [Option.bind_eq_bind, Option.bind_some, readVarint_varint_of_lt rest hpayload]
      cases readFields fuel [] rest <;> rfl
  | bytes contents =>
      simp only [Field.encode, Payload.visits, Payload.wireType, List.append_assoc]
      rw [readFields.eq_3 _ _ _ (hne _ _), hkey 2 (by decide)]
      simp only [Option.bind_eq_bind, Option.bind_some, readLength_varint, takeBytes_append]
      cases readFields fuel [] rest <;> rfl
  | fixed64 contents =>
      have htake := takeBytes_append contents rest
      rw [hpayload] at htake
      simp only [Field.encode, Payload.visits, Payload.wireType, List.append_assoc]
      rw [readFields.eq_3 _ _ _ (hne _ _), hkey 1 (by decide)]
      simp only [Option.bind_eq_bind, Option.bind_some, htake]
      cases readFields fuel [] rest <;> rfl
  | fixed32 contents =>
      have htake := takeBytes_append contents rest
      rw [hpayload] at htake
      simp only [Field.encode, Payload.visits, Payload.wireType, List.append_assoc]
      rw [readFields.eq_3 _ _ _ (hne _ _), hkey 5 (by decide)]
      simp only [Option.bind_eq_bind, Option.bind_some, htake]
      cases readFields fuel [] rest <;> rfl
  | group =>
      simp only [Field.encode, Payload.visits, Payload.wireType, List.append_assoc]
      rw [readFields.eq_3 _ _ _ (hne _ _), hkey 3 (by decide)]
      simp only [Option.bind_eq_bind, Option.bind_some]
      -- Within the group the next key is the one that closes it.
      rw [readFields.eq_3 _ _ _ (hne _ _), hkey 4 (by decide)]
      simp only [Option.bind_eq_bind, Option.bind_some]
      cases readFields fuel [] rest <;> rfl

/-- Fields that are written are read back. -/
theorem decode_encode {fields : Fields} (h : fields.AreValid) :
    decode (encode fields) = some fields := by
  have hread : ∀ fuel, (encode fields).length ≤ fuel →
      readFields fuel [] (encode fields) = some fields := by
    induction fields with
    | nil =>
        intro fuel _
        rw [encode, List.flatMap_nil, readFields, if_pos rfl]
    | cons field fields ih =>
        intro fuel hfuel
        rw [encode, List.flatMap_cons, List.length_append] at hfuel
        have hvisits := field.visits_le_length_encode
        obtain ⟨less, rfl⟩ : ∃ less, fuel = less + field.payload.visits :=
          ⟨fuel - field.payload.visits, by omega⟩
        have hothers : Fields.AreValid fields := fun other hother =>
          h other (List.mem_cons_of_mem field hother)
        have hless : (encode fields).length ≤ less := by
          rw [encode]
          omega
        calc readFields (less + field.payload.visits) [] (encode (field :: fields))
            = (readFields less [] (encode fields)).map (field :: ·) :=
              readFields_encode_append (h field List.mem_cons_self) less (encode fields)
          _ = some (field :: fields) := by
              rw [ih hothers less hless, Option.map_some]
  exact hread _ (Nat.le_refl _)

end GatewayCompiler.Wire
