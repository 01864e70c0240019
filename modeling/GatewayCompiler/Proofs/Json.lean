import GatewayCompiler.Json.Printer
import GatewayCompiler.Json.Reader
import GatewayCompiler.Proofs.Schema.Records

/-!
# Indented JSON read back

The reader passes over the layout of an indented text and comes back with the value that was
printed.  A value is read back when the values in it are; what follows it in the text does not
matter.  An object is read back with its fields in ascending order of key.
-/

namespace GatewayCompiler.Json

/-- A value that is read from its indented form, at whatever level it stands. -/
def IsReadBack (json : Json) : Prop :=
  ∀ level fuel rest, (indentedChars level json).length < fuel →
    readValue fuel (indentedChars level json ++ rest) = some (json, rest)

/-! Blanks -/

theorem skipBlanks_append {blanks : List Char} (h : ∀ c ∈ blanks, isBlank c) (cs : List Char) :
    skipBlanks (blanks ++ cs) = skipBlanks cs :=
  List.dropWhile_append_of_pos h

theorem isBlank_of_mem_newLine (level : Nat) : ∀ c ∈ newLine level, isBlank c := by
  intro c hc
  rw [newLine, List.mem_cons] at hc
  obtain rfl | hc := hc
  · rfl
  · rw [List.eq_of_mem_replicate hc]
    rfl

theorem skipBlanks_newLine_append (level : Nat) (cs : List Char) :
    skipBlanks (newLine level ++ cs) = skipBlanks cs :=
  skipBlanks_append (isBlank_of_mem_newLine level) cs

theorem skipBlanks_cons {c : Char} (h : isBlank c = false) (cs : List Char) :
    skipBlanks (c :: cs) = c :: cs :=
  List.dropWhile_cons_of_neg (Bool.not_eq_true _ ▸ h)

theorem skipBlanks_skipBlanks (cs : List Char) : skipBlanks (skipBlanks cs) = skipBlanks cs := by
  induction cs with
  | nil => rfl
  | cons c cs ih =>
      cases hc : isBlank c with
      | true =>
          have hskip : skipBlanks (c :: cs) = skipBlanks cs := List.dropWhile_cons_of_pos hc
          rw [hskip, ih]
      | false => rw [skipBlanks_cons hc, skipBlanks_cons hc]

theorem readValue_congr {first second : List Char} (h : skipBlanks first = skipBlanks second)
    (fuel : Nat) : readValue fuel first = readValue fuel second := by
  cases fuel with
  | zero => simp [readValue]
  | succ fuel => rw [readValue, readValue, h]

theorem readItems_skipBlanks (fuel : Nat) (cs : List Char) :
    readItems fuel (skipBlanks cs) = readItems fuel cs := by
  cases fuel with
  | zero => simp [readItems]
  | succ fuel => rw [readItems, readItems, readValue_congr (skipBlanks_skipBlanks cs)]

/-! Strings -/

theorem hexValue?_hexDigit : ∀ n < 16, hexValue? (hexDigit n) = some n := by
  decide

/-- The unit that a control is escaped as. -/
theorem escapedUnit?_control {c : Char} (h : c.toNat < 32) (rest : List Char) :
    escapedUnit? ('0' :: '0' :: hexDigit (c.toNat / 16) :: hexDigit (c.toNat % 16) :: rest) =
      some (c, rest) := by
  have hunit : hexUnit? ('0' :: '0' :: hexDigit (c.toNat / 16) :: hexDigit (c.toNat % 16) ::
      rest) = some (c.toNat, rest) := by
    have hzero : hexValue? '0' = some 0 := rfl
    have hhigh := hexValue?_hexDigit (c.toNat / 16) (by omega)
    have hlow := hexValue?_hexDigit (c.toNat % 16) (by omega)
    have hsum : 0 * 4096 + 0 * 256 + c.toNat / 16 * 16 + c.toNat % 16 = c.toNat := by omega
    simp only [hexUnit?, hzero, hhigh, hlow, Option.bind_eq_bind, Option.bind_some, hsum]
    rfl
  have hhigh : ¬ (0xd800 ≤ c.toNat ∧ c.toNat < 0xdc00) := by omega
  have hlow : ¬ (0xdc00 ≤ c.toNat ∧ c.toNat < 0xe000) := by omega
  rw [escapedUnit?, hunit]
  simp only [Option.bind_eq_bind, Option.bind_some, if_neg hhigh, if_neg hlow, Char.ofNat_toNat]
  rfl

/-- A character is read from what it is escaped as. -/
theorem readString_escapeChar (c : Char) {fuel : Nat} {cs chars rest : List Char}
    (h : readString fuel cs = some (chars, rest)) :
    readString (fuel + 1) (escapeChar c ++ cs) = some (c :: chars, rest) := by
  unfold escapeChar
  split
  case h_8 =>
    split
    · rename_i hcontrol
      simp [readString, escapedUnit?_control hcontrol, h]
    · rename_i hquote hbackslash _ _ _ _ _ hplain
      rw [List.singleton_append]
      simp only [readString, if_neg hquote, if_neg hbackslash, if_neg hplain, h]
      rfl
  all_goals simp [readString, simpleEscape?, h]

theorem readString_append {fuel : Nat} (chars rest : List Char) (h : chars.length < fuel) :
    readString fuel (chars.flatMap escapeChar ++ '\x22' :: rest) = some (chars, rest) := by
  induction chars generalizing fuel with
  | nil =>
      obtain ⟨fuel, rfl⟩ := Nat.exists_eq_add_one_of_ne_zero (Nat.ne_zero_of_lt h)
      simp [readString]
  | cons c chars ih =>
      obtain ⟨fuel, rfl⟩ := Nat.exists_eq_add_one_of_ne_zero (Nat.ne_zero_of_lt h)
      rw [List.flatMap_cons, List.append_assoc]
      exact readString_escapeChar c (ih (Nat.lt_of_succ_lt_succ h))

theorem escapeChar_ne_nil (c : Char) : escapeChar c ≠ [] := by
  unfold escapeChar
  split
  case h_8 => split <;> exact List.cons_ne_nil _ _
  all_goals exact List.cons_ne_nil _ _

/-- Every character takes up some room in the text. -/
theorem length_le_flatMap_escapeChar (chars : List Char) :
    chars.length ≤ (chars.flatMap escapeChar).length := by
  induction chars with
  | nil => exact Nat.zero_le _
  | cons c chars ih =>
      have hc := List.length_pos_of_ne_nil (escapeChar_ne_nil c)
      rw [List.flatMap_cons, List.length_append, List.length_cons]
      omega

/-- A string is read from its quoted form, with all of the text behind its first quote as bound. -/
theorem readString_stringChars (text : String) (rest : List Char) :
    ∃ chars, stringChars text ++ rest = '\x22' :: chars ∧
      readString (chars.length + 1) chars = some (text.toList, rest) := by
  refine ⟨text.toList.flatMap escapeChar ++ '\x22' :: rest, by simp [stringChars], ?_⟩
  apply readString_append
  have hlength := length_le_flatMap_escapeChar text.toList
  rw [List.length_append]
  omega

theorem IsReadBack.string (text : String) : (Json.string text).IsReadBack := by
  intro level fuel rest hfuel
  obtain ⟨chars, hchars, hread⟩ := readString_stringChars text rest
  obtain ⟨fuel, rfl⟩ := Nat.exists_eq_add_one_of_ne_zero (Nat.ne_zero_of_lt hfuel)
  rw [indentedChars, hchars, readValue, skipBlanks_cons rfl]
  simp [hread]

/-! Arrays -/

theorem indentedItems_false (level : Nat) (item : Json) (items : List Json) :
    indentedItems level false (item :: items) =
      ',' :: indentedItems level true (item :: items) := by
  simp [indentedItems]

theorem indentedItems_true (level : Nat) (item : Json) (items : List Json) :
    indentedItems level true (item :: items) =
      newLine level ++ (indentedChars level item ++ indentedItems level false items) := by
  simp [indentedItems]

/-- A value is read behind the blanks before it. -/
theorem IsReadBack.readValue_append {json : Json} (h : json.IsReadBack) {blanks : List Char}
    (hblanks : ∀ c ∈ blanks, isBlank c) (level : Nat) {fuel : Nat} (rest : List Char)
    (hfuel : (indentedChars level json).length < fuel) :
    readValue fuel (blanks ++ (indentedChars level json ++ rest)) = some (json, rest) := by
  rw [readValue_congr (skipBlanks_append hblanks _)]
  exact h level fuel rest hfuel

/-- An item is read with what stands behind it: the closing bracket, or a comma and other items. -/
theorem readItems_step {item : Json} (h : item.IsReadBack) (level : Nat) {fuel : Nat}
    {items : List Json} {rest after : List Char}
    (hfuel : (indentedChars level item).length < fuel)
    (hrest : skipBlanks rest = ']' :: after ∧ items = [] ∨
      ∃ more, skipBlanks rest = ',' :: more ∧ readItems fuel more = some (items, after)) :
    readItems (fuel + 1) (newLine level ++ (indentedChars level item ++ rest)) =
      some (item :: items, after) := by
  rw [readItems, h.readValue_append (isBlank_of_mem_newLine level) level rest hfuel]
  obtain ⟨hclosing, rfl⟩ | ⟨more, hcomma, hitems⟩ := hrest
  · simp [hclosing]
  · simp [hcomma, hitems]

/-- The items of an array are read one after another, up to its closing bracket. -/
theorem readItems_indentedItems {item : Json} {items : List Json}
    (h : ∀ json ∈ item :: items, json.IsReadBack) (level closing : Nat) {fuel : Nat}
    (rest : List Char) (hfuel : (indentedItems level true (item :: items)).length < fuel) :
    readItems fuel (indentedItems level true (item :: items) ++ (newLine closing ++ ']' :: rest)) =
      some (item :: items, rest) := by
  induction items generalizing item fuel with
  | nil =>
      obtain ⟨fuel, rfl⟩ := Nat.exists_eq_add_one_of_ne_zero (Nat.ne_zero_of_lt hfuel)
      rw [indentedItems_true, indentedItems, List.append_nil] at hfuel ⊢
      rw [List.length_append, newLine, List.length_cons] at hfuel
      rw [List.append_assoc]
      apply readItems_step (h item List.mem_cons_self) level (by omega)
      rw [skipBlanks_newLine_append, skipBlanks_cons rfl]
      exact .inl ⟨rfl, rfl⟩
  | cons next items ih =>
      obtain ⟨hitem, hitems⟩ := List.forall_mem_cons.1 h
      obtain ⟨fuel, rfl⟩ := Nat.exists_eq_add_one_of_ne_zero (Nat.ne_zero_of_lt hfuel)
      rw [indentedItems_true, indentedItems_false] at hfuel ⊢
      rw [List.length_append, List.length_append, newLine, List.length_cons, List.length_cons]
        at hfuel
      rw [List.append_assoc, List.append_assoc, List.cons_append]
      apply readItems_step hitem level (by omega)
      exact .inr ⟨_, skipBlanks_cons rfl _, ih hitems (by omega)⟩

/-- No item starts with a closing bracket. -/
theorem readItems_bracket (fuel : Nat) (rest : List Char) :
    readItems fuel (']' :: rest) = none := by
  have hvalue (fuel : Nat) : readValue fuel (']' :: rest) = none := by
    cases fuel with
    | zero => simp [readValue]
    | succ fuel =>
        simp [readValue, skipBlanks_cons (c := ']') rfl, readNumber?, spanDigits, Char.isDigit]
  cases fuel with
  | zero => simp [readItems]
  | succ fuel =>
      rw [readItems, hvalue]
      rfl

theorem readValue_bracket {fuel : Nat} {cs rest : List Char} {items : List Json}
    (h : readItems fuel cs = some (items, rest)) :
    readValue (fuel + 1) ('[' :: cs) = some (.array items, rest) := by
  rw [readValue, skipBlanks_cons rfl]
  simp only [Char.reduceEq, if_false, if_true]
  split
  · rename_i hbracket
    rw [← readItems_skipBlanks, hbracket, readItems_bracket] at h
    cases h
  · rw [readItems_skipBlanks, h]
    rfl

theorem indentedChars_array_cons (level : Nat) (item : Json) (items : List Json) :
    indentedChars level (.array (item :: items)) =
      '[' :: (indentedItems (level + 1) true (item :: items) ++ (newLine level ++ [']'])) := by
  simp [indentedChars]

theorem IsReadBack.array {items : List Json} (h : ∀ json ∈ items, json.IsReadBack) :
    (Json.array items).IsReadBack := by
  intro level fuel rest hfuel
  obtain ⟨fuel, rfl⟩ := Nat.exists_eq_add_one_of_ne_zero (Nat.ne_zero_of_lt hfuel)
  cases items with
  | nil =>
      simp [indentedChars, readValue, skipBlanks_cons (c := '[') rfl,
        skipBlanks_cons (c := ']') rfl]
  | cons item items =>
      rw [indentedChars_array_cons, List.length_cons, List.length_append] at hfuel
      rw [indentedChars_array_cons, List.cons_append, List.append_assoc, List.append_assoc]
      apply readValue_bracket
      exact readItems_indentedItems h (level + 1) level rest (by omega)

/-! Objects -/

theorem indentedFields_false (level : Nat) (field : String × Json) (fields : List (String × Json)) :
    indentedFields level false (field :: fields) =
      ',' :: indentedFields level true (field :: fields) := by
  simp [indentedFields]

theorem indentedFields_true (level : Nat) (field : String × Json) (fields : List (String × Json)) :
    indentedFields level true (field :: fields) = newLine level ++ (stringChars field.1 ++
      ([':', ' '] ++ (indentedChars level field.2 ++ indentedFields level false fields))) := by
  simp [indentedFields]

theorem readFields_skipBlanks (fuel : Nat) (cs : List Char) :
    readFields fuel (skipBlanks cs) = readFields fuel cs := by
  cases fuel with
  | zero => simp [readFields]
  | succ fuel => rw [readFields, readFields, skipBlanks_skipBlanks]

/-- A field is read with what stands behind it: the closing brace, or a comma and other fields. -/
theorem readFields_step {field : String × Json} (h : field.2.IsReadBack) (level : Nat) {fuel : Nat}
    {fields : List (String × Json)} {rest after : List Char}
    (hfuel : (indentedChars level field.2).length < fuel)
    (hrest : skipBlanks rest = '\x7d' :: after ∧ fields = [] ∨
      ∃ more, skipBlanks rest = ',' :: more ∧ readFields fuel more = some (fields, after)) :
    readFields (fuel + 1) (newLine level ++ (stringChars field.1 ++
      ([':', ' '] ++ (indentedChars level field.2 ++ rest)))) = some (field :: fields, after) := by
  obtain ⟨chars, hchars, hkey⟩ := readString_stringChars field.1
    ([':', ' '] ++ (indentedChars level field.2 ++ rest))
  have hcolon (more : List Char) :
      afterWord? [':'] (skipBlanks ([':', ' '] ++ more)) = some ([' '] ++ more) := by
    rw [List.cons_append, skipBlanks_cons rfl]
    simp [afterWord?]
  have hblank : ∀ c ∈ [' '], isBlank c := List.forall_mem_singleton.2 rfl
  have hvalue := h.readValue_append hblank level rest hfuel
  rw [hchars, readFields, skipBlanks_newLine_append, skipBlanks_cons rfl]
  simp only [hkey, Option.bind_eq_bind, Option.bind_some, hcolon, hvalue, String.ofList_toList]
  obtain ⟨hclosing, rfl⟩ | ⟨more, hcomma, hfields⟩ := hrest
  · simp [hclosing]
  · simp [hcomma, hfields]

/-- The fields of an object are read one after another, up to its closing brace. -/
theorem readFields_indentedFields {field : String × Json} {fields : List (String × Json)}
    (h : ∀ entry ∈ field :: fields, entry.2.IsReadBack) (level closing : Nat) {fuel : Nat}
    (rest : List Char) (hfuel : (indentedFields level true (field :: fields)).length < fuel) :
    readFields fuel
        (indentedFields level true (field :: fields) ++ (newLine closing ++ '\x7d' :: rest)) =
      some (field :: fields, rest) := by
  induction fields generalizing field fuel with
  | nil =>
      obtain ⟨fuel, rfl⟩ := Nat.exists_eq_add_one_of_ne_zero (Nat.ne_zero_of_lt hfuel)
      rw [indentedFields_true, indentedFields, List.append_nil] at hfuel ⊢
      simp only [List.length_append, newLine, List.length_cons] at hfuel
      simp only [List.append_assoc]
      apply readFields_step (h field List.mem_cons_self) level (by omega)
      rw [skipBlanks_newLine_append, skipBlanks_cons rfl]
      exact .inl ⟨rfl, rfl⟩
  | cons next fields ih =>
      obtain ⟨hfield, hfields⟩ := List.forall_mem_cons.1 h
      obtain ⟨fuel, rfl⟩ := Nat.exists_eq_add_one_of_ne_zero (Nat.ne_zero_of_lt hfuel)
      rw [indentedFields_true, indentedFields_false] at hfuel ⊢
      simp only [List.length_append, newLine, List.length_cons] at hfuel
      simp only [List.append_assoc, List.cons_append (a := ',')]
      apply readFields_step hfield level (by omega)
      exact .inr ⟨_, skipBlanks_cons rfl _, ih hfields (by omega)⟩

/-- No field starts with a closing brace. -/
theorem readFields_brace (fuel : Nat) (rest : List Char) :
    readFields fuel ('\x7d' :: rest) = none := by
  cases fuel with
  | zero => simp [readFields]
  | succ fuel => simp [readFields, skipBlanks_cons (c := '\x7d') rfl]

theorem readValue_brace {fuel : Nat} {cs rest : List Char} {fields : List (String × Json)}
    (h : readFields fuel cs = some (fields, rest)) :
    readValue (fuel + 1) ('\x7b' :: cs) = some (ofFields fields, rest) := by
  rw [readValue, skipBlanks_cons rfl]
  simp only [if_true]
  split
  · rename_i hbrace
    rw [← readFields_skipBlanks, hbrace, readFields_brace] at h
    cases h
  · rw [readFields_skipBlanks, h]
    rfl

theorem indentedChars_object_cons (level : Nat) (field : String × Json)
    (fields : List (String × Json)) :
    indentedChars level (.object (field :: fields)) =
      '\x7b' :: (indentedFields (level + 1) true (field :: fields) ++
        (newLine level ++ ['\x7d'])) := by
  simp [indentedChars]

/-- An object is read with its fields in order, whatever the order that they are printed in. -/
theorem readValue_object {fields : List (String × Json)}
    (h : ∀ field ∈ fields, field.2.IsReadBack) (level : Nat) {fuel : Nat} (rest : List Char)
    (hfuel : (indentedChars level (.object fields)).length < fuel) :
    readValue fuel (indentedChars level (.object fields) ++ rest) =
      some (ofFields fields, rest) := by
  obtain ⟨fuel, rfl⟩ := Nat.exists_eq_add_one_of_ne_zero (Nat.ne_zero_of_lt hfuel)
  cases fields with
  | nil =>
      simp [indentedChars, readValue, skipBlanks_cons (c := '\x7b') rfl,
        skipBlanks_cons (c := '\x7d') rfl, ofFields]
  | cons field fields =>
      rw [indentedChars_object_cons, List.length_cons, List.length_append] at hfuel
      rw [indentedChars_object_cons, List.cons_append, List.append_assoc, List.append_assoc]
      apply readValue_brace
      exact readFields_indentedFields h (level + 1) level rest (by omega)

theorem insertField_of_forall_lt {key : String} {value : Json} {fields : List (String × Json)}
    (h : ∀ field ∈ fields, field.1 < key) :
    insertField key value fields = fields ++ [(key, value)] := by
  induction fields with
  | nil => rfl
  | cons field fields ih =>
      obtain ⟨hfield, hfields⟩ := List.forall_mem_cons.1 h
      rw [insertField, if_neg (lt_asymm hfield), if_neg hfield.ne', ih hfields, List.cons_append]

/-- Fields in ascending order are kept as they are. -/
theorem ofFields_of_ascending {fields : List (String × Json)}
    (h : fields.Pairwise fun a b => a.1 < b.1) : ofFields fields = .object fields := by
  induction fields using List.reverseRecOn with
  | nil => rfl
  | append_singleton fields field ih =>
      obtain ⟨hfields, -, hlast⟩ := List.pairwise_append.1 h
      have hlower : ∀ other ∈ fields, other.1 < field.1 := by
        intro other hother
        exact hlast other hother field List.mem_cons_self
      have hinit := Json.object.inj (ih hfields)
      rw [ofFields, List.foldl_append, hinit]
      exact congrArg Json.object (insertField_of_forall_lt hlower)

theorem IsReadBack.object {fields : List (String × Json)}
    (hfields : fields.Pairwise fun a b => a.1 < b.1) (h : ∀ field ∈ fields, field.2.IsReadBack) :
    (Json.object fields).IsReadBack := by
  intro level fuel rest hfuel
  rw [readValue_object h level rest hfuel, ofFields_of_ascending hfields]

/-- The text of an object is read as its value, also with blanks behind it. -/
theorem parse?_indented_append {fields : List (String × Json)}
    (h : ∀ field ∈ fields, field.2.IsReadBack) {blanks : String}
    (hblanks : ∀ c ∈ blanks.toList, isBlank c) :
    parse? (indented (.object fields) ++ blanks) = some (ofFields fields) := by
  have hchars : (indented (.object fields) ++ blanks).toList =
      indentedChars 0 (.object fields) ++ blanks.toList := by
    rw [String.toList_append, indented, String.toList_ofList]
  have hend : skipBlanks blanks.toList = [] := by
    have := skipBlanks_append hblanks []
    rwa [List.append_nil] at this
  have hfuel : (indentedChars 0 (.object fields)).length <
      2 * (indentedChars 0 (.object fields) ++ blanks.toList).length + 2 := by
    rw [List.length_append]
    omega
  rw [parse?, hchars]
  simp only [readValue_object h 0 blanks.toList hfuel, Option.bind_eq_bind, Option.bind_some, hend,
    if_true]

end GatewayCompiler.Json
