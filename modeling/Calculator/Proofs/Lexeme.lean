/-
  Calculator.Proofs.Lexeme
  ────────────────────────
  **WHAT THE TOKENS OF A SOURCE LOOK LIKE.**

  A token that scanning finds is a first character with all that joins it
  (`mem_tokensFrom`).  So the text of a number is a run of digits, which denotes
  a number of some size (`hasDecimal_of_mem_tokensFrom`), and reading keeps that
  number exactly if it is in range (`Token.read?_eq_some_iff`).
-/
import Calculator.Token.Scan
import Calculator.Number

namespace Calculator

/-! ## §1. The pieces that scanning finds. -/

/-- A token is a character that is no layout with characters that join it. -/
theorem mem_tokensFrom {offset : Nat} {cs : List Char} {t : Token}
    (h : t ∈ tokensFrom offset cs) :
    ∃ (place : Nat) (c : Char) (word : List Char),
      t = .ofText place (c :: word) ∧ isLayout c = false ∧ ∀ d ∈ word, joins c d = true := by
  fun_induction tokensFrom offset cs with
  | case1 => simp at h
  | case2 offset c cs hc ih => exact ih h
  | case3 offset c cs hc ih =>
    rcases List.mem_cons.1 h with rfl | h
    · refine ⟨offset, c, cs.takeWhile (joins c), rfl, by simpa using hc, ?_⟩
      exact List.all_eq_true.1 List.all_takeWhile
    · exact ih h

/-- The end of the source is none of its pieces. -/
theorem kind_ne_endOfInput_of_mem_tokensFrom {offset : Nat} {cs : List Char} {t : Token}
    (h : t ∈ tokensFrom offset cs) : t.kind ≠ .endOfInput := by
  obtain ⟨place, c, word, rfl, -, -⟩ := mem_tokensFrom h
  exact TokenKind.ofText_cons_ne c word

/-! ## §2. Numbers. -/

/-- The number that the digits of the token denote, however large it is. -/
def Token.decimal? (t : Token) : Option Nat := Number.ofDigits? t.text.toList

/-- The token is no number, or it has digits that denote one. -/
def Token.HasDecimal (t : Token) : Prop := t.kind = .number → ∃ n, t.decimal? = some n

theorem Token.hasDecimal_of_ne {t : Token} (h : t.kind ≠ .number) : t.HasDecimal := by
  intro hk
  exact absurd hk h

/-- A character that makes a number is a digit. -/
private theorem isDigit_of_ofText_eq_number {c : Char} {cs : List Char}
    (h : TokenKind.ofText (c :: cs) = .number) : c.isAlpha = false ∧ c.isDigit = true := by
  simp only [TokenKind.ofText] at h
  split at h
  -- a letter starts a name or a word of the language
  · split at h <;> simp at h
  · next ha =>
    split at h
    · next hd => exact ⟨by simpa using ha, hd⟩
    -- no sign makes a number
    · simp only [TokenKind.ofChar] at h
      split at h <;> simp at h

/-- The numbers of a source have a decimal value. -/
theorem hasDecimal_of_mem_tokensFrom {offset : Nat} {cs : List Char} {t : Token}
    (h : t ∈ tokensFrom offset cs) : t.HasDecimal := by
  intro hk
  obtain ⟨place, c, word, rfl, -, hw⟩ := mem_tokensFrom h
  obtain ⟨ha, hd⟩ := isDigit_of_ofText_eq_number hk
  -- behind a digit only digits join
  have hall : (c :: word).all Char.isDigit = true := by
    rw [List.all_cons, hd, Bool.true_and, List.all_eq_true]
    intro d hm
    have hj := hw d hm
    rw [joins, ha] at hj
    simpa [hd] using hj
  refine ⟨Nat.ofDigitChars 10 (c :: word) 0, ?_⟩
  simp only [Token.decimal?, Token.text_ofText, String.toList_ofList, Number.ofDigits?]
  rw [if_pos ⟨by simp, hall⟩]

/-- Digits are read as the number that they denote, if it is in range. -/
theorem Number.read?_of_ofDigits? {cs : List Char} {n : Nat} (h : ofDigits? cs = some n) :
    read? cs = fit? n := by
  have hall : cs.all Char.isDigit = true := by
    unfold ofDigits? at h
    split at h
    · next hc => exact hc.2
    · simp at h
  rw [read?, ofSigned?_of_digits hall, h, Option.map_some, Option.bind_some, Int.ofNat_eq_natCast]

/-- A number with a decimal value is read exactly if that is at most 2^31 - 1, and
then as that value. -/
theorem Token.read?_eq_some_iff {t : Token} {n : Nat} (h : t.decimal? = some n) {v : Int32} :
    Number.read? t.text.toList = some v ↔ n ≤ 2147483647 ∧ v.toInt = n := by
  rw [Number.read?_of_ofDigits? h, Number.fit?_eq_some_iff]
  constructor
  · intro hv
    have hlt := v.toInt_lt
    exact ⟨by omega, hv⟩
  · intro hv
    exact hv.2

/-- Within the range of 32 bits every number has a value. -/
theorem Token.read?_isSome {t : Token} {n : Nat} (h : t.decimal? = some n)
    (hn : n ≤ 2147483647) : ∃ v, Number.read? t.text.toList = some v ∧ v.toInt = n := by
  cases hf : Number.fit? (n : Int) with
  | none =>
    -- a natural number can only be out of range at the upper end
    rw [Number.fit?_eq_none_iff] at hf
    omega
  | some v =>
    exact ⟨v, (Number.read?_of_ofDigits? h).trans hf, Number.fit?_eq_some_iff.1 hf⟩

end Calculator
