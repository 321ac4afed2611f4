/-
  Calculator.Proofs.LineValue
  ───────────────────────────
  **WHICH VALUE A LINE HOLDS.**

  What the line for a variable must be like is said here without reading it.  A numeral is
  one or more digits, with one sign in front at most (`IsNumeral`); a line holds the value
  that its text denotes when the white space at both ends is taken off (`IsTrimmed`,
  `HoldsValue`).  Reading a line gives this value, and there are two ways for it to fail: the
  line is no text, or its text denotes no value.

  Main statements:
    * `read?_eq_some_iff`              — numbers are read exactly of numerals;
    * `valueOfLine_eq_ok_iff_holds`, `valueOfLine_eq_invalidText_iff`,
      `valueOfLine_eq_invalidInput`    — the three outcomes of reading a line;
    * `holdsValue_write`               — what is written holds its value.
-/
import Calculator.Proofs.Dialogue

namespace Calculator

/-! ## §1. Numerals. -/

/-- The characters are a numeral of the number: digits, with a sign in front at most. -/
inductive IsNumeral : List Char → Int → Prop where
  | unsigned {digits : List Char} (nonempty : digits ≠ [])
      (digit : ∀ d ∈ digits, d.isDigit = true) :
      IsNumeral digits (Nat.ofDigitChars 10 digits 0)
  | plus {digits : List Char} (nonempty : digits ≠ [])
      (digit : ∀ d ∈ digits, d.isDigit = true) :
      IsNumeral ('+' :: digits) (Nat.ofDigitChars 10 digits 0)
  | minus {digits : List Char} (nonempty : digits ≠ [])
      (digit : ∀ d ∈ digits, d.isDigit = true) :
      IsNumeral ('-' :: digits) (-(Nat.ofDigitChars 10 digits 0))

namespace Number

theorem ofDigits?_eq_some_iff {cs : List Char} {n : Nat} :
    ofDigits? cs = some n ↔
      cs ≠ [] ∧ (∀ d ∈ cs, d.isDigit = true) ∧ n = Nat.ofDigitChars 10 cs 0 := by
  unfold ofDigits?
  split
  · next h =>
    rw [List.all_eq_true] at h
    constructor
    · intro hn
      exact ⟨h.1, h.2, (Option.some.inj hn).symm⟩
    · rintro ⟨-, -, rfl⟩
      rfl
  · next h =>
    rw [List.all_eq_true] at h
    constructor
    · intro hn
      cases hn
    · rintro ⟨hne, hall, -⟩
      exact absurd ⟨hne, hall⟩ h

/-- Signed digits are read exactly of numerals. -/
theorem ofSigned?_eq_some_iff {cs : List Char} {n : Int} :
    ofSigned? cs = some n ↔ IsNumeral cs n := by
  constructor
  · intro h
    unfold ofSigned? at h
    split at h
    · obtain ⟨m, hm, rfl⟩ := Option.map_eq_some_iff.1 h
      obtain ⟨hne, hall, rfl⟩ := ofDigits?_eq_some_iff.1 hm
      exact .plus hne hall
    · obtain ⟨m, hm, rfl⟩ := Option.map_eq_some_iff.1 h
      obtain ⟨hne, hall, rfl⟩ := ofDigits?_eq_some_iff.1 hm
      exact .minus hne hall
    · obtain ⟨m, hm, rfl⟩ := Option.map_eq_some_iff.1 h
      obtain ⟨hne, hall, rfl⟩ := ofDigits?_eq_some_iff.1 hm
      exact .unsigned hne hall
  · intro h
    cases h with
    | unsigned hne hall =>
      rw [ofSigned?_of_digits (List.all_eq_true.2 hall),
        ofDigits?_eq_some_iff.2 ⟨hne, hall, rfl⟩]
      rfl
    | plus hne hall =>
      rw [ofSigned?, ofDigits?_eq_some_iff.2 ⟨hne, hall, rfl⟩]
      rfl
    | minus hne hall =>
      rw [ofSigned?, ofDigits?_eq_some_iff.2 ⟨hne, hall, rfl⟩]
      rfl

/-- A value is read exactly of its numerals. -/
theorem read?_eq_some_iff {cs : List Char} {v : Int32} :
    read? cs = some v ↔ IsNumeral cs v.toInt := by
  rw [read?, Option.bind_eq_some_iff, ← ofSigned?_eq_some_iff]
  constructor
  · rintro ⟨n, hn, hv⟩
    rwa [fit?_eq_some_iff.1 hv]
  · intro h
    exact ⟨v.toInt, h, fit?_toInt v⟩

end Number

/-! ## §2. The ends of a text. -/

/-- What is left of `cs` without the characters of the class at its end. -/
def IsDroppedEnd (p : Char → Bool) (cs rest : List Char) : Prop :=
  ∃ tail, cs = rest ++ tail ∧ (∀ c ∈ tail, p c = true) ∧ ∀ c ∈ rest.getLast?, p c = false

/-- What is left of `cs` without the white space at its two ends. -/
def IsTrimmed (cs core : List Char) : Prop :=
  ∃ before after, cs = before ++ (core ++ after) ∧ (∀ c ∈ before, Text.isBlank c = true) ∧
    (∀ c ∈ after, Text.isBlank c = true) ∧ (∀ c ∈ core.head?, Text.isBlank c = false) ∧
    ∀ c ∈ core.getLast?, Text.isBlank c = false

/-- A list without the elements of a class at its start. -/
theorem dropWhile_eq_iff {α : Type} {p : α → Bool} {xs rest : List α} :
    xs.dropWhile p = rest ↔
      ∃ front, xs = front ++ rest ∧ (∀ x ∈ front, p x = true) ∧ ∀ x ∈ rest.head?, p x = false := by
  constructor
  · rintro rfl
    refine ⟨xs.takeWhile p, List.takeWhile_append_dropWhile.symm,
      List.all_eq_true.1 List.all_takeWhile, ?_⟩
    intro x hx
    have hfirst := List.head?_dropWhile_not p xs
    rw [Option.mem_def.1 hx] at hfirst
    simpa using hfirst
  · rintro ⟨front, rfl, hfront, hrest⟩
    rw [List.dropWhile_append_of_pos hfront]
    cases rest with
    | nil => rfl
    | cons x rest =>
      have hx : ¬p x = true := by simp [hrest x rfl]
      rw [List.dropWhile_cons_of_neg hx]

theorem isDroppedEnd_iff {p : Char → Bool} {cs rest : List Char} :
    IsDroppedEnd p cs rest ↔ Text.dropEndWhile p cs = rest := by
  unfold Text.dropEndWhile
  rw [List.reverse_eq_iff, dropWhile_eq_iff]
  constructor
  · rintro ⟨tail, rfl, htail, hlast⟩
    refine ⟨tail.reverse, List.reverse_append, ?_, ?_⟩
    · intro c hc
      exact htail c (List.mem_reverse.1 hc)
    · rwa [List.head?_reverse]
  · rintro ⟨front, hcs, hfront, hlast⟩
    refine ⟨front.reverse, ?_, ?_, ?_⟩
    · rw [← List.reverse_reverse cs, hcs, List.reverse_append, List.reverse_reverse]
    · intro c hc
      exact hfront c (List.mem_reverse.1 hc)
    · rwa [List.head?_reverse] at hlast

/-- Trimming a text takes the white space off both its ends. -/
theorem isTrimmed_iff {cs core : List Char} : IsTrimmed cs core ↔ Text.trim cs = core := by
  unfold Text.trim
  rw [← isDroppedEnd_iff]
  constructor
  · rintro ⟨before, after, rfl, hbefore, hafter, hhead, hlast⟩
    cases core with
    | nil =>
      -- all of it is white space, and nothing is left for the end
      have hdrop : (before ++ ([] ++ after)).dropWhile Text.isBlank = [] :=
        dropWhile_eq_iff.2 ⟨before ++ after, by simp, List.forall_mem_append.2 ⟨hbefore, hafter⟩,
          by simp⟩
      rw [hdrop]
      exact ⟨[], rfl, by simp, by simp⟩
    | cons c core =>
      have hdrop : (before ++ (c :: core ++ after)).dropWhile Text.isBlank = c :: core ++ after :=
        dropWhile_eq_iff.2 ⟨before, rfl, hbefore, hhead⟩
      rw [hdrop]
      exact ⟨after, rfl, hafter, hlast⟩
  · rintro ⟨tail, hdrop, htail, hlast⟩
    obtain ⟨front, hcs, hfront, hhead⟩ := dropWhile_eq_iff.1 hdrop
    refine ⟨front, tail, hcs, hfront, htail, ?_, hlast⟩
    intro c hc
    obtain ⟨core', rfl⟩ := List.head?_eq_some_iff.1 hc
    exact hhead c rfl

/-! ## §3. Lines. -/

/-- The line is text, and its text denotes the value, with white space around it at most. -/
def HoldsValue (line : List UInt8) (value : Int32) : Prop :=
  ∃ (text : String) (core : List Char), line = Text.encode text ∧ IsTrimmed text.toList core ∧
    IsNumeral core value.toInt

/-- The line of a text holds what the text denotes. -/
theorem holdsValue_encode_iff {text : String} {value : Int32} :
    HoldsValue (Text.encode text) value ↔
      Number.read? (Text.trim text.toList) = some value := by
  rw [Number.read?_eq_some_iff]
  constructor
  · -- two texts with the same bytes are the same
    rintro ⟨other, core, hline, htrim, hvalue⟩
    have hdecode := Text.decode?_encode text
    rw [hline, Text.decode?_encode] at hdecode
    obtain rfl := Option.some.inj hdecode
    rwa [isTrimmed_iff.1 htrim]
  · intro h
    exact ⟨text, _, rfl, isTrimmed_iff.2 rfl, h⟩

/-- Only a line of text holds a value. -/
theorem lineValue?_eq_some_iff {line : List UInt8} {value : Int32} :
    lineValue? line = some value ↔ HoldsValue line value := by
  unfold lineValue?
  cases hline : Text.decode? line with
  | none =>
    constructor
    · intro h
      cases h
    · rintro ⟨text, core, rfl, -, -⟩
      rw [Text.decode?_encode] at hline
      cases hline
  | some text =>
    rw [Text.decode?_eq_some_iff.1 hline, holdsValue_encode_iff, Option.bind_some]

variable {name : String} {line : List UInt8}

/-- Reading a line gives the value that it holds. -/
theorem valueOfLine_eq_ok_iff_holds {value : Int32} :
    valueOfLine name line = .ok value ↔ HoldsValue line value :=
  valueOfLine_eq_ok_iff.trans lineValue?_eq_some_iff

/-- Reading a line tells of bad text exactly if it is no text. -/
theorem valueOfLine_eq_invalidText_iff :
    valueOfLine name line = .error (.console .invalidText) ↔ ∀ text, line ≠ Text.encode text := by
  unfold valueOfLine
  cases hline : Text.decode? line with
  | none =>
    refine ⟨?_, fun _ => rfl⟩
    rintro - text rfl
    rw [Text.decode?_encode] at hline
    cases hline
  | some text =>
    have heq := Text.decode?_eq_some_iff.1 hline
    constructor
    · intro h
      dsimp only at h
      split at h
      · cases h
      · cases h
    · intro h
      exact absurd heq (h text)

/-- Of a text that denotes no value, reading a line tells without the end of the line. -/
theorem valueOfLine_eq_invalidInput {text shown : String}
    (hnone : ∀ value, ¬HoldsValue (Text.encode text) value)
    (hshown : IsDroppedEnd isLineEnd text.toList shown.toList) :
    valueOfLine name (Text.encode text) = .error (.invalidInput name shown) := by
  have hread : Number.read? (Text.trim text.toList) = none := by
    rw [Option.eq_none_iff_forall_ne_some]
    intro value hvalue
    exact hnone value (holdsValue_encode_iff.2 hvalue)
  have hdrop : String.ofList (Text.dropEndWhile isLineEnd text.toList) = shown := by
    rw [isDroppedEnd_iff.1 hshown, String.ofList_toList]
  unfold valueOfLine
  rw [Text.decode?_encode]
  dsimp only
  rw [hread, ← hdrop]

/-- Every text has an end to be dropped. -/
theorem exists_isDroppedEnd (p : Char → Bool) (text : String) :
    ∃ shown : String, IsDroppedEnd p text.toList shown.toList := by
  refine ⟨.ofList (Text.dropEndWhile p text.toList), ?_⟩
  rw [String.toList_ofList]
  exact isDroppedEnd_iff.2 rfl

/-! ## §4. What is written. -/

theorem isBlank_of_isDigit {c : Char} (h : c.isDigit = true) : Text.isBlank c = false := by
  have hrange : 48 ≤ c.toNat ∧ c.toNat ≤ 57 := by
    unfold Char.isDigit at h
    rw [Bool.and_eq_true, decide_eq_true_eq, decide_eq_true_eq] at h
    exact ⟨UInt32.le_iff_toNat_le.1 h.1, UInt32.le_iff_toNat_le.1 h.2⟩
  obtain ⟨hlow, hhigh⟩ := hrange
  unfold Text.isBlank
  dsimp only
  grind

/-- The ends of a numeral are digits and signs, and these are no white space. -/
theorem IsNumeral.ends {cs : List Char} {n : Int} (h : IsNumeral cs n) :
    (∀ c ∈ cs.head?, Text.isBlank c = false) ∧ ∀ c ∈ cs.getLast?, Text.isBlank c = false := by
  have hdigits : ∀ {digits : List Char}, (∀ d ∈ digits, d.isDigit = true) →
      ∀ c ∈ digits.getLast?, Text.isBlank c = false :=
    fun hall c hc => isBlank_of_isDigit (hall c (List.mem_of_getLast? hc))
  cases h with
  | unsigned hne hall =>
    exact ⟨fun c hc => isBlank_of_isDigit (hall c (List.mem_of_head? hc)), hdigits hall⟩
  | plus hne hall =>
    rw [List.getLast?_cons_of_ne_nil hne]
    exact ⟨fun c hc => Option.some.inj hc ▸ rfl, hdigits hall⟩
  | minus hne hall =>
    rw [List.getLast?_cons_of_ne_nil hne]
    exact ⟨fun c hc => Option.some.inj hc ▸ rfl, hdigits hall⟩

/-- What is written for a value holds it, with any white space around. -/
theorem holdsValue_write (value : Int32) {before after : String}
    (hbefore : ∀ c ∈ before.toList, Text.isBlank c = true)
    (hafter : ∀ c ∈ after.toList, Text.isBlank c = true) :
    HoldsValue (Text.encode (before ++ (Number.write value ++ after))) value := by
  have hnumeral := Number.read?_eq_some_iff.1 (Number.read?_write value)
  obtain ⟨hhead, hlast⟩ := hnumeral.ends
  refine ⟨_, _, rfl, ⟨before.toList, after.toList, ?_, hbefore, hafter, hhead, hlast⟩, hnumeral⟩
  rw [String.toList_append, String.toList_append]

end Calculator
