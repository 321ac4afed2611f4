/-
  Calculator.Token.Scan
  ─────────────────────
  **FROM TEXT TO TOKENS.**

  A source is cut from left to right: layout between tokens is dropped, and a
  token takes as many characters as belong to it.  `tokens` gives all tokens of
  a source before its end and `scan` adds the end; a `Scanner` hands out the
  same tokens one at a time.

  Main statements: the first token and what is left behind it unfold `tokensFrom`
  (`tokensFrom_eq_nil_iff`, `tokensFrom_eq_cons`).
-/
import Calculator.Token

namespace Calculator

open Text (width)

/-! ## §1. Which characters make a token. -/

/-- The characters that may stand between tokens: space, tab, line feed, vertical
tab, form feed and carriage return. -/
def isLayout (c : Char) : Bool :=
  c == ' ' || c == '\t' || c == '\n' || c == '\x0b' || c == '\x0c' || c == '\r'

/-- Whether a token that starts with `c` takes a following `d` in: a word takes
letters and digits, a number takes digits, and nothing else takes anything. -/
def joins (c d : Char) : Bool := if c.isAlpha then d.isAlphanum else c.isDigit && d.isDigit

/-! ## §2. Scanning. -/

/-- All tokens of the characters that stand from the byte `offset` on, without
the end. -/
def tokensFrom (offset : Nat) : List Char → List Token
  | [] => []
  | c :: cs =>
    if isLayout c then tokensFrom (offset + c.utf8Size) cs
    else
      .ofText offset (c :: cs.takeWhile (joins c)) ::
        tokensFrom (offset + width (c :: cs.takeWhile (joins c))) (cs.dropWhile (joins c))
termination_by cs => cs.length
decreasing_by
  · simp
  · exact Nat.lt_succ_of_le (List.dropWhile_suffix _).length_le

/-- All tokens of a source, without its end. -/
def tokens (source : String) : List Token := tokensFrom 0 source.toList

/-- The end of a source: an empty token behind its last byte. -/
def endToken (source : String) : Token := .endOfInput (width source.toList)

/-- All tokens of a source, the end of the source being the last one. -/
def scan (source : String) : List Token := tokens source ++ [endToken source]

/-! ## §3. One token at a time. -/

/-- A place in a text: the byte offset and the characters from there on. -/
structure Cursor where
  offset : Nat
  rest : List Char
  deriving DecidableEq, Repr, Inhabited

/-- The first token of the characters that stand from the byte `offset` on, and
the place behind it; at the end of the text, the end and the place itself. -/
def nextFrom (offset : Nat) : List Char → Token × Cursor
  | [] => (.endOfInput offset, ⟨offset, []⟩)
  | c :: cs =>
    if isLayout c then nextFrom (offset + c.utf8Size) cs
    else
      (.ofText offset (c :: cs.takeWhile (joins c)),
        ⟨offset + width (c :: cs.takeWhile (joins c)), cs.dropWhile (joins c)⟩)

/-- A source being read token by token: the place reached, and whether `next?`
has handed out the end. -/
structure Scanner where
  place : Cursor
  finished : Bool
  deriving DecidableEq, Repr, Inhabited

namespace Scanner

/-- The scanner at the start of a source. -/
def ofSource (source : String) : Scanner := ⟨⟨0, source.toList⟩, false⟩

/-- The next token; at the end of the source, the end again and again. -/
def nextToken (s : Scanner) : Token × Scanner :=
  let (token, place) := nextFrom s.place.offset s.place.rest
  (token, { s with place })

/-- The next token, up to the first end of the source that it hands out itself. -/
def next? (s : Scanner) : Option Token × Scanner :=
  if s.finished then (none, s)
  else
    let (token, s) := s.nextToken
    (some token, { s with finished := token.kind == .endOfInput })

/-- A way to ask a scanner for a token. -/
inductive Pull where
  /-- By `next?`. -/
  | next
  /-- By `nextToken`. -/
  | nextToken
  deriving DecidableEq, Repr, Inhabited

/-- Asks once. -/
def pull (p : Pull) (s : Scanner) : Option Token × Scanner :=
  match p with
  | .next => s.next?
  | .nextToken => (some s.nextToken.1, s.nextToken.2)

/-- The answers to asking again and again. -/
def pullAll : List Pull → Scanner → List (Option Token)
  | [], _ => []
  | p :: later, s => (s.pull p).1 :: pullAll later (s.pull p).2

end Scanner

/-! ## §4. The two views agree. -/

/-- A piece of the source has a kind of its own: only the end is the end. -/
theorem TokenKind.ofText_cons_ne (c : Char) (cs : List Char) :
    TokenKind.ofText (c :: cs) ≠ .endOfInput := by
  simp only [TokenKind.ofText]
  split
  · split <;> simp
  · split
    · simp
    · simp only [TokenKind.ofChar]; split <;> simp

/-- No tokens are left exactly when the next one is the end. -/
theorem tokensFrom_eq_nil_iff (offset : Nat) (cs : List Char) :
    tokensFrom offset cs = [] ↔ (nextFrom offset cs).1.kind = .endOfInput := by
  fun_induction nextFrom offset cs with
  | case1 => simp [tokensFrom]
  | case2 offset c cs hc ih => rw [tokensFrom, if_pos hc, ih]
  | case3 offset c cs hc =>
    rw [tokensFrom, if_neg hc]
    simpa using TokenKind.ofText_cons_ne c _

/-- While the next token is not the end, it is the first of all tokens, and the
others are those behind it. -/
theorem tokensFrom_eq_cons {offset : Nat} {cs : List Char}
    (h : (nextFrom offset cs).1.kind ≠ .endOfInput) :
    tokensFrom offset cs =
      (nextFrom offset cs).1 ::
        tokensFrom (nextFrom offset cs).2.offset (nextFrom offset cs).2.rest := by
  fun_induction nextFrom offset cs with
  | case1 => simp at h
  | case2 offset c cs hc ih => rw [tokensFrom, if_pos hc, ih h]
  | case3 offset c cs hc => rw [tokensFrom, if_neg hc]

end Calculator
