/-
  Calculator.Proofs.Reading
  ─────────────────────────
  **WHAT READING AN EXPRESSION CAN DO.**

  The functions that read expressions call each other.  Here what they do is said
  once, by the rules of a relation (`Reads`): which tokens a reader is given, what
  it makes of them, what it leaves, and what happens meanwhile.  A property of
  reading is then one induction over the rules, with a case for each of them, and
  no function has to be unfolded again.

  Main statements:
    * `reads_run`    — whatever a reader does follows the rules;
    * `Reads.run_eq` — the rules allow nothing else.
-/
import Calculator.Expr.Parse

namespace Calculator

/-! ## §1. Readers and their rules. -/

/-- The functions that read expressions. -/
inductive Reader where
  /-- An operand of the layer. -/
  | operand (layer : Layer)
  /-- Operands of the layer with its operators between them. -/
  | chain (layer : Layer)
  /-- The operators of the layer behind `left`, each with its right operand. -/
  | extension (layer : Layer) (left : Expr)
  /-- A number, a variable or a sum in parentheses. -/
  | factor
  deriving DecidableEq, Repr, Inhabited

/-- What the reader makes of the tokens. -/
def Reader.run (size : Nat) (ts : List Token) : Reader → Step ts Expr
  | operand layer => parseOperand size layer ts
  | chain layer => parseChain size layer ts
  | extension layer left => extendChain size layer left ts
  | factor => parseFactor size ts

/-- The kinds that a factor can start with. -/
def TokenKind.startsFactor : TokenKind → Bool
  | number | identifier | leftParen => true
  | _ => false

/-- In a source of `size` bytes the reader makes `e` of the tokens `ts` and leaves
`rest`, and meanwhile `events` happen. -/
inductive Reads (size : Nat) : Reader → List Token → Expr → List Token → List Event → Prop where
  /-- An operand of a sum is a product. -/
  | sumOperand {ts rest : List Token} {e : Expr} {events : List Event}
      (chain : Reads size (.chain .product) ts e rest events) :
      Reads size (.operand .sum) ts e rest events
  /-- An operand of a product is a factor. -/
  | productOperand {ts rest : List Token} {e : Expr} {events : List Event}
      (factor : Reads size .factor ts e rest events) :
      Reads size (.operand .product) ts e rest events
  /-- A chain is its first operand and what extends it. -/
  | chain {layer : Layer} {ts mid rest : List Token} {left e : Expr} {before after : List Event}
      (first : Reads size (.operand layer) ts left mid before)
      (more : Reads size (.extension layer left) mid e rest after) :
      Reads size (.chain layer) ts e rest (before ++ after)
  /-- Without an operator of the layer ahead, the chain is over. -/
  | stop {layer : Layer} {left : Expr} {ts : List Token}
      (ends : layer.operator? (lookAhead size ts).kind = none) :
      Reads size (.extension layer left) ts left ts []
  /-- An operator of the layer takes an operand in. -/
  | extend {layer : Layer} {left right e : Expr} {t : Token} {op : Operator}
      {ts mid rest : List Token} {before after : List Event}
      (mark : layer.operator? t.kind = some op)
      (operand : Reads size (.operand layer) ts right mid before)
      (more : Reads size (.extension layer (.ofOperands op t.span left right)) mid e rest after) :
      Reads size (.extension layer left) (t :: ts) e rest
        (.sighted (lookAhead size ts) :: (before ++ after))
  /-- A number that is in range. -/
  | literal {t : Token} {ts : List Token} {value : Int32} (kind : t.kind = .number)
      (fits : Number.read? t.text.toList = some value) :
      Reads size .factor (t :: ts) (.literal value t.text t.span) ts
        [.sighted (lookAhead size ts)]
  /-- A number that is not; the tokens behind it are left out. -/
  | outOfRange {t : Token} {ts : List Token} (kind : t.kind = .number)
      (large : Number.read? t.text.toList = none) :
      Reads size .factor (t :: ts) .missing (recover size (.numberOutOfRange t) ts).rest
        (.sighted (lookAhead size ts) :: (recover size (.numberOutOfRange t) ts).journal.events)
  /-- A variable. -/
  | reference {t : Token} {ts : List Token} (kind : t.kind = .identifier) :
      Reads size .factor (t :: ts) (.reference t.text t.span) ts [.sighted (lookAhead size ts)]
  /-- A sum in parentheses. -/
  | group {opening closing : Token} {ts rest : List Token} {inner : Expr} {events : List Event}
      (kind : opening.kind = .leftParen)
      (sum : Reads size (.chain .sum) ts inner (closing :: rest) events)
      (closed : closing.kind = .rightParen) :
      Reads size .factor (opening :: ts)
        (inner.parenthesized (opening.span.hull closing.span)) rest
        (.sighted (lookAhead size ts) :: (events ++ [.sighted (lookAhead size rest)]))
  /-- A sum behind a parenthesis that is not closed; it is lost. -/
  | unclosed {opening : Token} {ts mid : List Token} {inner : Expr} {events : List Event}
      (kind : opening.kind = .leftParen)
      (sum : Reads size (.chain .sum) ts inner mid events)
      (unclosed : (lookAhead size mid).kind ≠ .rightParen) :
      Reads size .factor (opening :: ts) .missing
        (recover size (.unclosedParenthesis opening (lookAhead size mid)) mid).rest
        (.sighted (lookAhead size ts) :: (events ++
          (recover size (.unclosedParenthesis opening (lookAhead size mid)) mid).journal.events))
  /-- A token that no factor starts with. -/
  | unexpected {ts : List Token} (kind : (lookAhead size ts).kind.startsFactor = false) :
      Reads size .factor ts .missing
        (recover size (.unexpectedInExpression (lookAhead size ts)) ts).rest
        (recover size (.unexpectedInExpression (lookAhead size ts)) ts).journal.events

/-! ## §2. The readers follow the rules. -/

@[simp] theorem lookAhead_nil (size : Nat) : lookAhead size [] = .endOfInput size := rfl

@[simp] theorem lookAhead_cons (size : Nat) (t : Token) (ts : List Token) :
    lookAhead size (t :: ts) = t := rfl

/-- The end of the source is an operator of no layer. -/
@[simp] theorem Layer.operator?_endOfInput (layer : Layer) :
    layer.operator? .endOfInput = none := by
  cases layer
  · rfl
  · rfl

variable {size : Nat}

theorem TokenKind.startsFactor_eq_false {kind : TokenKind} (hn : kind = .number → False)
    (hi : kind = .identifier → False) (hp : kind = .leftParen → False) :
    kind.startsFactor = false := by
  cases kind <;> simp_all [startsFactor]

/-- What `closeParenthesis` makes of the tokens behind the sum `inner` follows the
rules for parentheses. -/
private theorem reads_closeParenthesis {opening : Token} {ts : List Token}
    (kind : opening.kind = .leftParen) {inner : Expr} {mid : List Token} {events : List Event}
    (sum : Reads size (.chain .sum) ts inner mid events) :
    Reads size .factor (opening :: ts) (closeParenthesis size opening inner mid).value
      (closeParenthesis size opening inner mid).rest
      (.sighted (lookAhead size ts) ::
        (events ++ (closeParenthesis size opening inner mid).journal.events)) := by
  cases mid with
  | nil => exact .unclosed kind sum (by simp)
  | cons t rest =>
    by_cases hc : t.kind = .rightParen
    · simp only [closeParenthesis, if_pos hc]
      exact .group kind sum hc
    · simp only [closeParenthesis, if_neg hc]
      exact .unclosed kind sum hc

/-- What a reader does follows the rules. -/
theorem reads_run (size : Nat) (reader : Reader) (ts : List Token) :
    Reads size reader ts (reader.run size ts).value (reader.run size ts).rest
      (reader.run size ts).journal.events := by
  -- the readers call each other, so one induction shows it of all four at once
  have all := parseOperand.mutual_induct size
    (fun layer ts => Reads size (.operand layer) ts (parseOperand size layer ts).value
      (parseOperand size layer ts).rest (parseOperand size layer ts).journal.events)
    (fun ts => Reads size .factor ts (parseFactor size ts).value
      (parseFactor size ts).rest (parseFactor size ts).journal.events)
    (fun layer ts => Reads size (.chain layer) ts (parseChain size layer ts).value
      (parseChain size layer ts).rest (parseChain size layer ts).journal.events)
    (fun layer left ts => Reads size (.extension layer left) ts
      (extendChain size layer left ts).value (extendChain size layer left ts).rest
      (extendChain size layer left ts).journal.events)
    ?operandSum ?operandProduct ?factorNil ?factorLiteral ?factorLarge ?factorReference
    ?factorGroup ?factorOther ?chain ?extensionNil ?extensionStop ?extensionMore
  · obtain ⟨hoperand, hfactor, hchain, hextension⟩ := all
    cases reader with
    | operand layer => exact hoperand layer ts
    | chain layer => exact hchain layer ts
    | extension layer left => exact hextension layer left ts
    | factor => exact hfactor ts
  case operandSum =>
    intro ts ih
    rw [parseOperand]
    exact .sumOperand ih
  case operandProduct =>
    intro ts ih
    rw [parseOperand]
    exact .productOperand ih
  case factorNil =>
    rw [parseFactor]
    exact .unexpected rfl
  case factorLiteral =>
    intro t rest hk value hv
    simp only [parseFactor, hk, hv]
    exact .literal hk hv
  case factorLarge =>
    intro t rest hk hv
    simp only [parseFactor, hk, hv]
    exact .outOfRange hk hv
  case factorReference =>
    intro t rest hk
    simp only [parseFactor, hk]
    exact .reference hk
  case factorGroup =>
    intro t rest hk ih
    simp only [parseFactor, hk, Journal.events_entry, Journal.events_join]
    exact reads_closeParenthesis hk ih
  case factorOther =>
    intro t rest hn hi hp
    have hs := TokenKind.startsFactor_eq_false hn hi hp
    rw [parseFactor]
    -- the kinds that start a factor have cases of their own
    split
    · exact (hn ‹_›).elim
    · exact (hi ‹_›).elim
    · exact (hp ‹_›).elim
    · exact .unexpected hs
  case chain =>
    intro layer ts _ ihf _ ihm
    rw [parseChain]
    simp only [Journal.events_join]
    exact .chain ihf ihm
  case extensionNil =>
    intro layer left
    rw [extendChain]
    exact .stop layer.operator?_endOfInput
  case extensionStop =>
    intro layer left t rest hop
    simp only [extendChain, hop]
    exact .stop hop
  case extensionMore =>
    intro layer left t rest op hop _ ihr _ ihm
    simp only [extendChain, hop, Journal.events_entry, Journal.events_join]
    exact .extend hop ihr ihm

/-! ## §3. The rules allow nothing else. -/

/-- What the rules say of a reader is what it does. -/
theorem Reads.run_eq {reader : Reader} {ts rest : List Token} {e : Expr} {events : List Event}
    (h : Reads size reader ts e rest events) :
    (reader.run size ts).value = e ∧ (reader.run size ts).rest = rest ∧
      (reader.run size ts).journal.events = events := by
  induction h with
  | sumOperand _ ih =>
    simp only [Reader.run] at ih ⊢
    rwa [parseOperand]
  | productOperand _ ih =>
    simp only [Reader.run] at ih ⊢
    rwa [parseOperand]
  | chain _ _ ihf ihm =>
    simp only [Reader.run] at ihf ihm ⊢
    obtain ⟨rfl, rfl, rfl⟩ := ihf
    obtain ⟨rfl, rfl, rfl⟩ := ihm
    simp only [parseChain, Journal.events_join, and_self]
  | @stop layer left ts hop =>
    simp only [Reader.run]
    cases ts with
    | nil =>
      rw [extendChain]
      exact ⟨rfl, rfl, rfl⟩
    | cons t rest =>
      rw [lookAhead_cons] at hop
      simp only [extendChain, hop, Journal.events_empty, and_self]
  | extend hop _ _ ihr ihm =>
    simp only [Reader.run] at ihr ihm ⊢
    obtain ⟨rfl, rfl, rfl⟩ := ihr
    obtain ⟨rfl, rfl, rfl⟩ := ihm
    simp only [extendChain, hop, Journal.events_entry, Journal.events_join, and_self]
  | literal hk hv =>
    simp only [Reader.run, parseFactor, hk, hv, Journal.events_entry, Journal.events_empty,
      and_self]
  | outOfRange hk hv =>
    simp only [Reader.run, parseFactor, hk, hv, Journal.events_entry, and_true]
    rfl
  | reference hk =>
    simp only [Reader.run, parseFactor, hk, Journal.events_entry, Journal.events_empty, and_self]
  | group hk _ hc ih =>
    simp only [Reader.run] at ih ⊢
    -- what the sum leaves is kept as it is, since the parenthesis is looked for in it
    obtain ⟨rfl, hr, rfl⟩ := ih
    simp only [parseFactor, hk, Journal.events_entry, Journal.events_join]
    rw [hr]
    simp only [closeParenthesis, if_pos hc, Journal.events_entry, Journal.events_empty, and_self]
  | @unclosed opening ts mid inner events hk _ hc ih =>
    simp only [Reader.run] at ih ⊢
    obtain ⟨rfl, hr, rfl⟩ := ih
    simp only [parseFactor, hk, Journal.events_entry, Journal.events_join]
    rw [hr]
    cases mid with
    | nil => exact ⟨rfl, rfl, rfl⟩
    | cons t rest =>
      rw [lookAhead_cons] at hc
      simp only [closeParenthesis, if_neg hc]
      exact ⟨rfl, rfl, rfl⟩
  | @unexpected ts hk =>
    simp only [Reader.run]
    cases ts with
    | nil =>
      rw [parseFactor]
      exact ⟨rfl, rfl, rfl⟩
    | cons t rest =>
      rw [lookAhead_cons] at hk ⊢
      rw [parseFactor]
      split
      -- no kind that starts a factor is unexpected
      · next h =>
        rw [h] at hk
        cases hk
      · next h =>
        rw [h] at hk
        cases hk
      · next h =>
        rw [h] at hk
        cases hk
      · exact ⟨rfl, rfl, rfl⟩

end Calculator
