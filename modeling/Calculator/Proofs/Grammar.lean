/-
  Calculator.Proofs.Grammar
  ─────────────────────────
  **WHICH TOKENS MAKE A PROGRAM, AND WHICH ONE.**

      Program  :=  ["with" identifier {"," identifier} ":"] Sum
      Sum      :=  Product {("+" | "-") Product}
      Product  :=  Factor {("*" | "/") Factor}
      Factor   :=  identifier | number | "(" Sum ")"

  The rules of the grammar, each with the shape that it gives to what it derives.
  A chain of operands is its first operand, or a shorter chain with one more
  operator and operand behind it, so that chains are folded to the left.

  The grammar knows nothing of how a source is read, and it takes numbers of any
  size; that all numbers are in range is a condition of its own (`Token.Fits`).
-/
import Calculator.Proofs.Lexeme
import Calculator.Proofs.Reading
import Calculator.Proofs.Shape

namespace Calculator

/-! ## §1. Expressions. -/

/-- The kinds of phrases that expressions are made of. -/
inductive Phrase where
  | factor
  | product
  | sum
  deriving DecidableEq, Repr, Inhabited

/-- The tokens derive from the phrase and mean the shape. -/
inductive Derives : Phrase → List Token → Shape → Prop where
  | name {t : Token} (kind : t.kind = .identifier) : Derives .factor [t] (.reference t.text)
  | number {t : Token} {n : Nat} (kind : t.kind = .number) (decimal : t.decimal? = some n) :
      Derives .factor [t] (.literal n t.text)
  | parentheses {opening closing : Token} {ts : List Token} {e : Shape}
      (opens : opening.kind = .leftParen) (sum : Derives .sum ts e)
      (closes : closing.kind = .rightParen) : Derives .factor (opening :: (ts ++ [closing])) e
  | product {ts : List Token} {e : Shape} (factor : Derives .factor ts e) : Derives .product ts e
  | times {t : Token} {op : Operator} {ts us : List Token} {e f : Shape}
      (left : Derives .product ts e)
      (mark : t.kind = .star ∧ op = .mul ∨ t.kind = .slash ∧ op = .div)
      (right : Derives .factor us f) : Derives .product (ts ++ t :: us) (.binary op e f)
  | sum {ts : List Token} {e : Shape} (product : Derives .product ts e) : Derives .sum ts e
  | plus {t : Token} {op : Operator} {ts us : List Token} {e f : Shape}
      (left : Derives .sum ts e)
      (mark : t.kind = .plus ∧ op = .add ∨ t.kind = .minus ∧ op = .sub)
      (right : Derives .product us f) : Derives .sum (ts ++ t :: us) (.binary op e f)

/-! ## §2. Programs. -/

/-- The tokens are names with commas between them and a colon behind the last. -/
inductive Declares : List Token → List String → Prop where
  | last {name mark : Token} (kind : name.kind = .identifier) (colon : mark.kind = .colon) :
      Declares [name, mark] [name.text]
  | more {name mark : Token} {ts : List Token} {names : List String}
      (kind : name.kind = .identifier) (comma : mark.kind = .comma) (later : Declares ts names) :
      Declares (name :: mark :: ts) (name.text :: names)

/-- The tokens derive a program with its declared names, if it declares any, and the
shape of its expression. -/
inductive DerivesProgram : List Token → Option (List String) → Shape → Prop where
  | bare {ts : List Token} {e : Shape} (sum : Derives .sum ts e) : DerivesProgram ts none e
  | declaring {opening : Token} {ts us : List Token} {names : List String} {e : Shape}
      (kind : opening.kind = .withKeyword) (header : Declares ts names)
      (sum : Derives .sum us e) : DerivesProgram (opening :: (ts ++ us)) (some names) e

/-- The token is no number, or its decimal value is at most 2^31 - 1. -/
def Token.Fits (t : Token) : Prop :=
  t.kind = .number → ∃ n, t.decimal? = some n ∧ n ≤ 2147483647

theorem Token.fits_of_ne {t : Token} (h : t.kind ≠ .number) : t.Fits := by
  intro hk
  exact absurd hk h

/-- The tokens derive a program whose numbers are all in range. -/
def IsSentence (ts : List Token) : Prop :=
  (∃ names e, DerivesProgram ts names e) ∧ ∀ t ∈ ts, t.Fits

/-- A phrase starts with a number, a variable or a parenthesis. -/
theorem Derives.exists_cons {phrase : Phrase} {ts : List Token} {e : Shape}
    (h : Derives phrase ts e) : ∃ t us, ts = t :: us ∧ t.kind.startsFactor = true := by
  induction h with
  | @name t hk => exact ⟨t, [], rfl, by rw [hk]; rfl⟩
  | @number t n hk => exact ⟨t, [], rfl, by rw [hk]; rfl⟩
  | @parentheses opening closing ts e ho =>
    exact ⟨opening, ts ++ [closing], rfl, by rw [ho]; rfl⟩
  | product _ ih => exact ih
  | times _ _ _ ih =>
    obtain ⟨t, us, rfl, ht⟩ := ih
    exact ⟨t, _, rfl, ht⟩
  | sum _ ih => exact ih
  | plus _ _ _ ih =>
    obtain ⟨t, us, rfl, ht⟩ := ih
    exact ⟨t, _, rfl, ht⟩

/-! ## §3. Layers as phrases. -/

namespace Layer

/-- The phrase of a chain of the layer. -/
def phrase : Layer → Phrase
  | sum => .sum
  | product => .product

/-- The phrase of an operand of the layer. -/
def operand : Layer → Phrase
  | sum => .product
  | product => .factor

/-- An operator is no number. -/
theorem fits_of_operator? {layer : Layer} {t : Token} {op : Operator}
    (h : layer.operator? t.kind = some op) : t.Fits := by
  apply Token.fits_of_ne
  intro hk
  rw [hk] at h
  -- no layer has a number among its operators
  cases layer with
  | sum => cases h
  | product => cases h

theorem operator?_sum_eq_some_iff {kind : TokenKind} {op : Operator} :
    sum.operator? kind = some op ↔
      kind = .plus ∧ op = .add ∨ kind = .minus ∧ op = .sub := by
  cases kind <;> cases op <;> decide

theorem operator?_product_eq_some_iff {kind : TokenKind} {op : Operator} :
    product.operator? kind = some op ↔
      kind = .star ∧ op = .mul ∨ kind = .slash ∧ op = .div := by
  cases kind <;> cases op <;> decide

end Layer

/-- An operand of a layer is a chain of it. -/
theorem Derives.chain {layer : Layer} {ts : List Token} {e : Shape}
    (h : Derives layer.operand ts e) : Derives layer.phrase ts e := by
  cases layer with
  | sum => exact .sum h
  | product => exact .product h

/-- A chain of a layer with one more operator and operand of it is a chain of it. -/
theorem Derives.extend {layer : Layer} {t : Token} {op : Operator} {ts us : List Token}
    {e f : Shape} (left : Derives layer.phrase ts e) (mark : layer.operator? t.kind = some op)
    (right : Derives layer.operand us f) :
    Derives layer.phrase (ts ++ t :: us) (.binary op e f) := by
  cases layer with
  | sum => exact .plus left (Layer.operator?_sum_eq_some_iff.1 mark) right
  | product => exact .times left (Layer.operator?_product_eq_some_iff.1 mark) right

end Calculator
