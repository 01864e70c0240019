/-!
# Blank characters

Surrounding space is removed from addresses, encoded values and settings before they are read.
What counts as space is the Unicode property White_Space, not only the ASCII blanks.
-/

namespace GatewayCompiler.Text

/-- The characters of the Unicode property White_Space. -/
def isBlank (c : Char) : Bool :=
  let n := c.toNat
  (9 ≤ n && n ≤ 13) || n == 0x20 || n == 0x85 || n == 0xa0 || n == 0x1680 ||
    (0x2000 ≤ n && n ≤ 0x200a) || n == 0x2028 || n == 0x2029 || n == 0x202f || n == 0x205f ||
    n == 0x3000

/-- Removes the longest run of characters in `p` from the end. -/
def dropEndWhile (p : Char → Bool) (cs : List Char) : List Char :=
  (cs.reverse.dropWhile p).reverse

def trimChars (cs : List Char) : List Char :=
  dropEndWhile isBlank (cs.dropWhile isBlank)

/-- The text without the blanks around it. -/
def trim (s : String) : String :=
  String.ofList (trimChars s.toList)

/-- What is removed from the end is in `p`. -/
theorem exists_dropEndWhile_append (p : Char → Bool) (cs : List Char) :
    ∃ tail, cs = dropEndWhile p cs ++ tail ∧ ∀ c ∈ tail, p c := by
  refine ⟨(cs.reverse.takeWhile p).reverse, ?_, ?_⟩
  · rw [dropEndWhile, ← List.reverse_append, List.takeWhile_append_dropWhile, List.reverse_reverse]
  · intro c hc
    have hc' := List.mem_reverse.1 hc
    exact List.all_eq_true.1 (List.all_takeWhile (l := cs.reverse)) c hc'

theorem dropEndWhile_append {p : Char → Bool} {cs tail : List Char} (htail : ∀ c ∈ tail, p c) :
    dropEndWhile p (cs ++ tail) = dropEndWhile p cs := by
  have hreverse : ∀ c ∈ tail.reverse, p c := fun c hc => htail c (List.mem_reverse.1 hc)
  rw [dropEndWhile, dropEndWhile, List.reverse_append, List.dropWhile_append_of_pos hreverse]

theorem dropWhile_of_forall_not {p : Char → Bool} {cs : List Char} (h : ∀ c ∈ cs, ¬ p c) :
    cs.dropWhile p = cs := by
  cases cs with
  | nil => rfl
  | cons c cs => exact List.dropWhile_cons_of_neg (h c List.mem_cons_self)

/-- Characters that are no blanks are what is left of them between blanks. -/
theorem trimChars_append {before core after : List Char} (hbefore : ∀ c ∈ before, isBlank c)
    (hcore : ∀ c ∈ core, ¬ isBlank c) (hafter : ∀ c ∈ after, isBlank c) :
    trimChars (before ++ core ++ after) = core := by
  rw [trimChars, List.append_assoc, List.dropWhile_append_of_pos hbefore]
  cases core with
  | nil =>
      rw [List.nil_append, ← List.append_nil after, List.dropWhile_append_of_pos hafter]
      rfl
  | cons c core =>
      have hreverse : ∀ d ∈ (c :: core).reverse, ¬ isBlank d :=
        fun d hd => hcore d (List.mem_reverse.1 hd)
      rw [List.cons_append, List.dropWhile_cons_of_neg (hcore c List.mem_cons_self),
        ← List.cons_append, dropEndWhile_append hafter, dropEndWhile,
        dropWhile_of_forall_not hreverse, List.reverse_reverse]

/-- A text without blanks is what is left of the texts that have it between blanks. -/
theorem trim_eq_iff {text core : String} (hcore : ∀ c ∈ core.toList, ¬ isBlank c) :
    trim text = core ↔
      ∃ before after : String, (∀ c ∈ before.toList, isBlank c) ∧ (∀ c ∈ after.toList, isBlank c) ∧
        text = before ++ core ++ after := by
  constructor
  · rintro rfl
    obtain ⟨tail, htail, hblank⟩ :=
      exists_dropEndWhile_append isBlank (text.toList.dropWhile isBlank)
    refine ⟨.ofList (text.toList.takeWhile isBlank), .ofList tail, ?_, ?_, ?_⟩
    · rw [String.toList_ofList]
      exact List.all_eq_true.1 List.all_takeWhile
    · rwa [String.toList_ofList]
    · rw [String.ext_iff]
      simp only [trim, trimChars, String.toList_append, String.toList_ofList, List.append_assoc]
      rw [← htail, List.takeWhile_append_dropWhile]
  · rintro ⟨before, after, hbefore, hafter, rfl⟩
    rw [trim, String.toList_append, String.toList_append, trimChars_append hbefore hcore hafter,
      String.ofList_toList]

end GatewayCompiler.Text
