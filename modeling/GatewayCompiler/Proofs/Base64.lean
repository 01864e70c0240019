import GatewayCompiler.Base64
import GatewayCompiler.Proofs.Outcome
import GatewayCompiler.Text.Blank

/-!
# Base64 read back

The text of any bytes is read as these bytes.  The text has whole groups of four symbols, of which
only the last is padded, and the bits that belong to no byte are zero.  No other text is read as
these bytes, unless blanks around a text are not counted.
-/

namespace GatewayCompiler.Base64

theorem value?_symbol {n : Nat} (h : n < 64) : value? (symbol n) = some n := by
  revert n
  decide

theorem symbol_ne_pad {n : Nat} (h : n < 64) : symbol n ≠ pad := by
  revert n
  decide

theorem symbolAt_symbol {n : Nat} (h : n < 64) (offset : Nat) :
    symbolAt (symbol n) offset = .ok n := by
  rw [symbolAt, value?_symbol h]

theorem lastGroup_symbol {n : Nat} (h : n < 64) (start index : Nat) (rest : List UInt8) :
    lastGroup start index (symbol n :: rest) =
      (lastGroup start (index + 1) rest).map fun (symbols, padding) => (n :: symbols, padding) := by
  rw [lastGroup, if_neg (symbol_ne_pad h), symbolAt_symbol h]
  cases lastGroup start (index + 1) rest <;> rfl

section Bytes

theorem ofNat_first (a : UInt8) {low : Nat} (h : low < 16) :
    UInt8.ofNat (a.toNat / 4 * 4 + (a.toNat % 4 * 16 + low) / 16) = a := by
  have hvalue : a.toNat / 4 * 4 + (a.toNat % 4 * 16 + low) / 16 = a.toNat := by omega
  rw [hvalue, UInt8.ofNat_toNat]

theorem ofNat_second (b : UInt8) (high : Nat) {low : Nat} (h : low < 4) :
    UInt8.ofNat ((high * 16 + b.toNat / 16) % 16 * 16 + (b.toNat % 16 * 4 + low) / 4) = b := by
  have hb := b.toNat_lt
  have hvalue : (high * 16 + b.toNat / 16) % 16 * 16 + (b.toNat % 16 * 4 + low) / 4 = b.toNat := by
    omega
  rw [hvalue, UInt8.ofNat_toNat]

theorem ofNat_third (c : UInt8) (high : Nat) :
    UInt8.ofNat ((high * 4 + c.toNat / 64) % 4 * 64 + c.toNat % 64) = c := by
  have hc := c.toNat_lt
  have hvalue : (high * 4 + c.toNat / 64) % 4 * 64 + c.toNat % 64 = c.toNat := by omega
  rw [hvalue, UInt8.ofNat_toNat]

end Bytes

section LastGroup

variable {start x y z w : Nat} {group : List UInt8}

theorem decodeLast_two_symbols (hgroup : lastGroup start 0 group = .ok ([x, y], 2))
    (hy : y % 16 = 0) : decodeLast start group = .ok [UInt8.ofNat (x * 4 + y / 16)] := by
  rw [decodeLast, hgroup]
  simp [bind, Except.bind, pure, Except.pure, hy]

theorem decodeLast_three_symbols (hgroup : lastGroup start 0 group = .ok ([x, y, z], 1))
    (hz : z % 4 = 0) :
    decodeLast start group =
      .ok [UInt8.ofNat (x * 4 + y / 16), UInt8.ofNat (y % 16 * 16 + z / 4)] := by
  rw [decodeLast, hgroup]
  simp [bind, Except.bind, pure, Except.pure, hz]

theorem decodeLast_four_symbols (hgroup : lastGroup start 0 group = .ok ([x, y, z, w], 0)) :
    decodeLast start group =
      .ok [UInt8.ofNat (x * 4 + y / 16), UInt8.ofNat (y % 16 * 16 + z / 4),
        UInt8.ofNat (z % 4 * 64 + w)] := by
  rw [decodeLast, hgroup]
  simp [bind, Except.bind, pure, Except.pure]

end LastGroup

theorem decodeLast_one (start : Nat) (a : UInt8) :
    decodeLast start (encodeBytes [a]) = .ok [a] := by
  have ha := a.toNat_lt
  have hgroup : lastGroup start 0 (encodeBytes [a]) =
      .ok ([a.toNat / 4, a.toNat % 4 * 16 + 0], 2) := by
    rw [encodeBytes, lastGroup_symbol (by omega), lastGroup_symbol (by omega)]
    simp [lastGroup, Except.map]
  rw [decodeLast_two_symbols hgroup (by omega), ofNat_first a (by omega)]

theorem decodeLast_two (start : Nat) (a b : UInt8) :
    decodeLast start (encodeBytes [a, b]) = .ok [a, b] := by
  have ha := a.toNat_lt
  have hb := b.toNat_lt
  have hgroup : lastGroup start 0 (encodeBytes [a, b]) =
      .ok ([a.toNat / 4, a.toNat % 4 * 16 + b.toNat / 16, b.toNat % 16 * 4 + 0], 1) := by
    rw [encodeBytes, lastGroup_symbol (by omega), lastGroup_symbol (by omega),
      lastGroup_symbol (by omega)]
    simp [lastGroup, Except.map]
  rw [decodeLast_three_symbols hgroup (by omega), ofNat_first a (by omega),
    ofNat_second b _ (by omega)]

theorem decodeLast_three (start : Nat) (a b c : UInt8) :
    decodeLast start (encodeBytes [a, b, c]) = .ok [a, b, c] := by
  have ha := a.toNat_lt
  have hb := b.toNat_lt
  have hc := c.toNat_lt
  have hgroup : lastGroup start 0 (encodeBytes [a, b, c]) =
      .ok ([a.toNat / 4, a.toNat % 4 * 16 + b.toNat / 16, b.toNat % 16 * 4 + c.toNat / 64,
        c.toNat % 64], 0) := by
    rw [encodeBytes, lastGroup_symbol (by omega), lastGroup_symbol (by omega),
      lastGroup_symbol (by omega), lastGroup_symbol (by omega)]
    simp [lastGroup, encodeBytes, Except.map]
  rw [decodeLast_four_symbols hgroup, ofNat_first a (by omega), ofNat_second b _ (by omega),
    ofNat_third c]

theorem encodeBytes_ne_nil {bytes : List UInt8} (h : bytes ≠ []) : encodeBytes bytes ≠ [] := by
  cases bytes using encodeBytes.fun_cases with
  | case1 => exact absurd rfl h
  | _ => simp [encodeBytes]

/-- A group that more groups follow is read as its three bytes. -/
theorem decodeGroups_encodeBytes_cons (start : Nat) (a b c : UInt8) {rest : List UInt8}
    (hrest : rest ≠ []) :
    decodeGroups start (encodeBytes (a :: b :: c :: rest)) =
      (decodeGroups (start + 4) (encodeBytes rest)).map fun bytes => a :: b :: c :: bytes := by
  have ha := a.toNat_lt
  have hb := b.toNat_lt
  have hc := c.toNat_lt
  obtain ⟨next, others, hencoded⟩ := List.exists_cons_of_ne_nil (encodeBytes_ne_nil hrest)
  rw [encodeBytes, hencoded, decodeGroups, symbolAt_symbol (by omega), symbolAt_symbol (by omega),
    symbolAt_symbol (by omega), symbolAt_symbol (by omega)]
  have hb : b.toNat / 16 < 16 := by omega
  have hc : c.toNat / 64 < 4 := by omega
  simp only [bind, Except.bind, ofNat_first a hb, ofNat_second b _ hc, ofNat_third c]
  cases decodeGroups (start + 4) (next :: others) <;> rfl

theorem decodeGroups_encodeBytes (start : Nat) {bytes : List UInt8} (h : bytes ≠ []) :
    decodeGroups start (encodeBytes bytes) = .ok bytes := by
  induction bytes using encodeBytes.induct generalizing start with
  | case1 => exact absurd rfl h
  | case2 a => exact decodeLast_one start a
  | case3 a b => exact decodeLast_two start a b
  | case4 a b c rest ih =>
      by_cases hrest : rest = []
      · subst hrest
        exact decodeLast_three start a b c
      · rw [decodeGroups_encodeBytes_cons start a b c hrest, ih (start + 4) hrest]
        rfl

theorem length_encodeBytes (bytes : List UInt8) : (encodeBytes bytes).length % 4 = 0 := by
  induction bytes using encodeBytes.induct with
  | case4 a b c rest ih =>
      simp only [encodeBytes, List.length_cons]
      omega
  | _ => simp [encodeBytes]

/-- Bytes in whole groups have none that stands alone at their end. -/
theorem decodeBytes_eq_decodeGroups {bytes : List UInt8} (h : bytes.length % 4 = 0) :
    decodeBytes bytes = decodeGroups 0 bytes := by
  have hstray : straySymbol? bytes = none := by
    rw [straySymbol?]
    split
    · rw [if_neg (by omega)]
    · rfl
  rw [decodeBytes, hstray]

theorem decodeBytes_encodeBytes (bytes : List UInt8) :
    decodeBytes (encodeBytes bytes) = .ok bytes := by
  rw [decodeBytes_eq_decodeGroups (length_encodeBytes bytes)]
  by_cases h : bytes = []
  · subst h
    rfl
  · exact decodeGroups_encodeBytes 0 h

theorem symbol_lt (n : Nat) : (symbol n).toNat < 128 := by
  simp only [symbol]
  repeat' split
  all_goals
    simp only [UInt8.toNat_ofNat', UInt8.reduceToNat]
    omega

/-- Bytes are written with symbols and padding alone. -/
theorem forall_mem_encodeBytes {p : UInt8 → Prop} (hsymbol : ∀ n, p (symbol n)) (hpad : p pad)
    (bytes : List UInt8) : ∀ byte ∈ encodeBytes bytes, p byte := by
  induction bytes using encodeBytes.induct with
  | case1 => simp [encodeBytes]
  | case2 a => simp [encodeBytes, hsymbol, hpad]
  | case3 a b => simp [encodeBytes, hsymbol, hpad]
  | case4 a b c rest ih => simpa [encodeBytes, hsymbol] using ih

theorem encodeBytes_lt (bytes : List UInt8) : ∀ byte ∈ encodeBytes bytes, byte.toNat < 128 :=
  forall_mem_encodeBytes symbol_lt (by decide) bytes

theorem utf8EncodeChar_ofNat {n : Nat} (h : n < 128) :
    String.utf8EncodeChar (Char.ofNat n) = [UInt8.ofNat n] := by
  revert n
  decide

/-- Text of ASCII characters has their numbers as its bytes. -/
theorem toUTF8_ofList_map {bytes : List UInt8} (h : ∀ byte ∈ bytes, byte.toNat < 128) :
    (String.ofList (bytes.map fun b => Char.ofNat b.toNat)).toUTF8.data.toList = bytes := by
  have hchars : (bytes.map fun b => Char.ofNat b.toNat).flatMap String.utf8EncodeChar = bytes := by
    induction bytes with
    | nil => rfl
    | cons byte bytes ih =>
        obtain ⟨hbyte, hbytes⟩ := List.forall_mem_cons.1 h
        rw [List.map_cons, List.flatMap_cons, utf8EncodeChar_ofNat hbyte, ih hbytes,
          UInt8.ofNat_toNat, List.singleton_append]
  rw [String.toUTF8_eq_toByteArray, String.toByteArray_ofList, List.utf8Encode, hchars,
    List.data_toByteArray]

theorem decode_encode (bytes : List UInt8) : decode (encode bytes) = .ok bytes := by
  rw [decode, encode, toUTF8_ofList_map (encodeBytes_lt bytes), decodeBytes_encodeBytes]

section Canonical

/-- A byte with a value is the symbol for that value. -/
theorem symbol_of_value? {byte : UInt8} {n : Nat} (h : value? byte = some n) :
    n < 64 ∧ symbol n = byte := by
  have hall : ∀ k < 256, ∀ m ∈ value? (UInt8.ofNat k), m < 64 ∧ symbol m = UInt8.ofNat k := by
    decide +kernel
  simpa using hall byte.toNat byte.toNat_lt n (by simpa using h)

theorem symbolAt_eq_ok {byte : UInt8} {offset n : Nat} (h : symbolAt byte offset = .ok n) :
    n < 64 ∧ symbol n = byte := by
  rw [symbolAt] at h
  split at h
  · next value hvalue =>
    cases h
    exact symbol_of_value? hvalue
  · cases h

/-- The last group is read as its symbols, and the rest of it is padding. -/
theorem lastGroup_eq_ok {start index padding : Nat} {group : List UInt8} {symbols : List Nat}
    (h : lastGroup start index group = .ok (symbols, padding)) :
    (∀ n ∈ symbols, n < 64) ∧ group = symbols.map symbol ++ List.replicate padding pad := by
  induction group generalizing index symbols padding with
  | nil =>
      cases h
      simp
  | cons byte rest ih =>
      rw [lastGroup] at h
      by_cases hpad : byte = pad
      · rw [if_pos hpad] at h
        by_cases hindex : index < 2
        · rw [if_pos hindex] at h
          cases h
        · rw [if_neg hindex] at h
          by_cases hrest : rest.all (· = pad)
          · rw [if_pos hrest] at h
            cases h
            have hrest : ∀ b ∈ rest, b = pad := by simpa using hrest
            simp [hpad, List.replicate_succ, ← List.eq_replicate_of_mem hrest]
          · rw [if_neg hrest] at h
            cases h
      · rw [if_neg hpad] at h
        obtain ⟨n, hn, h⟩ := bind_eq_ok.1 h
        obtain ⟨⟨tail, count⟩, htail, h⟩ := bind_eq_ok.1 h
        cases h
        obtain ⟨hlt, hsymbol⟩ := symbolAt_eq_ok hn
        obtain ⟨hall, hgroup⟩ := ih htail
        exact ⟨List.forall_mem_cons.2 ⟨hlt, hall⟩, by simp [hsymbol, ← hgroup]⟩

theorem toNat_first {x y : Nat} (hx : x < 64) (hy : y < 64) :
    (UInt8.ofNat (x * 4 + y / 16)).toNat = x * 4 + y / 16 :=
  UInt8.toNat_ofNat_of_lt' (by simp only [UInt8.size]; omega)

theorem toNat_second {y z : Nat} (hz : z < 64) :
    (UInt8.ofNat (y % 16 * 16 + z / 4)).toNat = y % 16 * 16 + z / 4 :=
  UInt8.toNat_ofNat_of_lt' (by simp only [UInt8.size]; omega)

theorem toNat_third {z w : Nat} (hw : w < 64) :
    (UInt8.ofNat (z % 4 * 64 + w)).toNat = z % 4 * 64 + w :=
  UInt8.toNat_ofNat_of_lt' (by simp only [UInt8.size]; omega)

/-- The byte that two symbols are read as is written with these symbols. -/
theorem encodeBytes_of_two {x y : Nat} (hx : x < 64) (hy : y < 64) (hspare : y % 16 = 0) :
    encodeBytes [UInt8.ofNat (x * 4 + y / 16)] = [symbol x, symbol y, pad, pad] := by
  have hfirst : (x * 4 + y / 16) / 4 = x := by omega
  have hsecond : (x * 4 + y / 16) % 4 * 16 = y := by omega
  rw [encodeBytes, toNat_first hx hy, hfirst, hsecond]

theorem encodeBytes_of_three {x y z : Nat} (hx : x < 64) (hy : y < 64) (hz : z < 64)
    (hspare : z % 4 = 0) :
    encodeBytes [UInt8.ofNat (x * 4 + y / 16), UInt8.ofNat (y % 16 * 16 + z / 4)] =
      [symbol x, symbol y, symbol z, pad] := by
  have hfirst : (x * 4 + y / 16) / 4 = x := by omega
  have hsecond : (x * 4 + y / 16) % 4 * 16 + (y % 16 * 16 + z / 4) / 16 = y := by omega
  have hthird : (y % 16 * 16 + z / 4) % 16 * 4 = z := by omega
  rw [encodeBytes, toNat_first hx hy, toNat_second hz, hfirst, hsecond, hthird]

theorem encodeBytes_of_four {x y z w : Nat} (hx : x < 64) (hy : y < 64) (hz : z < 64) (hw : w < 64)
    (rest : List UInt8) :
    encodeBytes (UInt8.ofNat (x * 4 + y / 16) :: UInt8.ofNat (y % 16 * 16 + z / 4) ::
        UInt8.ofNat (z % 4 * 64 + w) :: rest) =
      symbol x :: symbol y :: symbol z :: symbol w :: encodeBytes rest := by
  have hfirst : (x * 4 + y / 16) / 4 = x := by omega
  have hsecond : (x * 4 + y / 16) % 4 * 16 + (y % 16 * 16 + z / 4) / 16 = y := by omega
  have hthird : (y % 16 * 16 + z / 4) % 16 * 4 + (z % 4 * 64 + w) / 64 = z := by omega
  have hfourth : (z % 4 * 64 + w) % 64 = w := by omega
  rw [encodeBytes, toNat_first hx hy, toNat_second hz, toNat_third hw, hfirst, hsecond, hthird,
    hfourth]

/-- A group of at most four bytes is read only as the bytes that are written as it. -/
theorem decodeLast_eq_ok {start : Nat} {group bytes : List UInt8} (hlength : group.length ≤ 4)
    (h : decodeLast start group = .ok bytes) : group = encodeBytes bytes := by
  rw [decodeLast] at h
  obtain ⟨⟨symbols, padding⟩, hgroup, h⟩ := bind_eq_ok.1 h
  obtain ⟨hsymbols, rfl⟩ := lastGroup_eq_ok hgroup
  simp only [List.length_append, List.length_map, List.length_replicate] at h hlength
  by_cases hlone : start + (symbols.length + padding) ≠ 0 ∧ symbols.length < 2
  · rw [if_pos hlone] at h
    cases h
  by_cases hpadding : (padding + symbols.length) % 4 ≠ 0
  · rw [if_neg hlone, if_pos hpadding] at h
    cases h
  rw [if_neg hlone, if_neg hpadding] at h
  match symbols with
  | [] =>
      simp only [List.length_nil] at hlone
      obtain rfl : padding = 0 := by omega
      cases h
      rfl
  | [x] =>
      simp only [List.length_singleton] at hlone
      omega
  | [x, y] =>
      simp only [List.length_cons, List.length_nil] at hpadding hlength
      obtain rfl : padding = 2 := by omega
      obtain ⟨hx, hy, -⟩ : x < 64 ∧ y < 64 ∧ True := by simpa using hsymbols
      by_cases hspare : y % 16 = 0
      · simp only [hspare] at h
        cases h
        exact (encodeBytes_of_two hx hy hspare).symm
      · simp only [ne_eq, hspare, not_false_eq_true, if_true] at h
        cases h
  | [x, y, z] =>
      simp only [List.length_cons, List.length_nil] at hpadding hlength
      obtain rfl : padding = 1 := by omega
      obtain ⟨hx, hy, hz⟩ : x < 64 ∧ y < 64 ∧ z < 64 := by simpa using hsymbols
      by_cases hspare : z % 4 = 0
      · simp only [hspare] at h
        cases h
        exact (encodeBytes_of_three hx hy hz hspare).symm
      · simp only [ne_eq, hspare, not_false_eq_true, if_true] at h
        cases h
  | [x, y, z, w] =>
      simp only [List.length_cons, List.length_nil] at hlength
      obtain rfl : padding = 0 := by omega
      obtain ⟨hx, hy, hz, hw⟩ : x < 64 ∧ y < 64 ∧ z < 64 ∧ w < 64 := by simpa using hsymbols
      cases h
      exact (encodeBytes_of_four hx hy hz hw []).symm
  | _ :: _ :: _ :: _ :: _ :: rest =>
      simp only [List.length_cons] at hlength
      omega

theorem decodeGroups_eq_ok {start : Nat} {group bytes : List UInt8}
    (h : decodeGroups start group = .ok bytes) : group = encodeBytes bytes := by
  induction start, group using decodeGroups.induct generalizing bytes with
  | case1 start a b c d e rest ih =>
      rw [decodeGroups] at h
      obtain ⟨x, hx, h⟩ := bind_eq_ok.1 h
      obtain ⟨y, hy, h⟩ := bind_eq_ok.1 h
      obtain ⟨z, hz, h⟩ := bind_eq_ok.1 h
      obtain ⟨w, hw, h⟩ := bind_eq_ok.1 h
      obtain ⟨tail, htail, h⟩ := bind_eq_ok.1 h
      cases h
      obtain ⟨hxlt, rfl⟩ := symbolAt_eq_ok hx
      obtain ⟨hylt, rfl⟩ := symbolAt_eq_ok hy
      obtain ⟨hzlt, rfl⟩ := symbolAt_eq_ok hz
      obtain ⟨hwlt, rfl⟩ := symbolAt_eq_ok hw
      rw [encodeBytes_of_four hxlt hylt hzlt hwlt tail, ← ih htail]
  | case2 start group hshort =>
      rw [decodeGroups] at h
      · refine decodeLast_eq_ok ?_ h
        match group, hshort with
        | [], _ | [_], _ | [_, _], _ | [_, _, _], _ | [_, _, _, _], _ => simp
        | a :: b :: c :: d :: e :: rest, hshort => exact absurd rfl (hshort a b c d e rest)
      · exact hshort

theorem decodeBytes_eq_ok {text bytes : List UInt8} :
    decodeBytes text = .ok bytes ↔ text = encodeBytes bytes := by
  constructor
  · intro h
    rw [decodeBytes] at h
    split at h
    · cases h
    · exact decodeGroups_eq_ok h
  · rintro rfl
    exact decodeBytes_encodeBytes bytes

/-- A text is read as the bytes that are written as it, and as no others. -/
theorem decode_eq_ok_iff {text : String} {bytes : List UInt8} :
    decode text = .ok bytes ↔ text = encode bytes := by
  constructor
  · intro h
    have hbytes : text.toUTF8.data.toList = (encode bytes).toUTF8.data.toList := by
      rw [decodeBytes_eq_ok.1 h, encode, toUTF8_ofList_map (encodeBytes_lt bytes)]
    exact String.toByteArray_inj.1 (ByteArray.ext (Array.toList_inj.1 hbytes))
  · rintro rfl
    exact decode_encode bytes

end Canonical

section Blanks

theorem not_isBlank_symbol (n : Nat) : ¬ Text.isBlank (Char.ofNat (symbol n).toNat) := by
  have hall : ∀ k < 64, ¬ Text.isBlank (Char.ofNat (symbol k).toNat) := by
    decide +kernel
  by_cases hn : n < 64
  · exact hall n hn
  · have hlast : symbol n = symbol 63 := by
      rw [symbol, if_neg (by omega), if_neg (by omega), if_neg (by omega), if_neg (by omega)]
      rfl
    rw [hlast]
    exact hall 63 (by decide)

theorem not_isBlank_encode (bytes : List UInt8) :
    ∀ c ∈ (encode bytes).toList, ¬ Text.isBlank c := by
  rw [encode, String.toList_ofList, List.forall_mem_map]
  exact forall_mem_encodeBytes not_isBlank_symbol (by decide) bytes

/-- A text without the blanks around it is read as the bytes that stand between blanks in it. -/
theorem decode_trim_eq_ok_iff {text : String} {bytes : List UInt8} :
    decode (Text.trim text) = .ok bytes ↔
      ∃ before after : String, (∀ c ∈ before.toList, Text.isBlank c) ∧
        (∀ c ∈ after.toList, Text.isBlank c) ∧ text = before ++ encode bytes ++ after := by
  rw [decode_eq_ok_iff, Text.trim_eq_iff (not_isBlank_encode bytes)]

end Blanks

end GatewayCompiler.Base64
