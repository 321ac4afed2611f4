/-
  Calculator.Proofs.Salvage
  ─────────────────────────
  **WHAT IS KEPT OF A FAULTY SOURCE.**

  Reading goes on behind an error, so a tree is made of faulty sources too.  The rules
  for it are those by which tokens build a tree (`Builds`) and one more: any tokens may be
  given up for a hole (`Salvages.lost`).  How many tokens that are, and which ones, is
  left open here; what the rules say is that the others keep their order, and that each
  part of the tree comes from tokens of its own.

  Main statement: `exists_salvagesProgram` — whatever program a source has follows the
  rules.
-/
import Calculator.Proofs.Construction

namespace Calculator

variable {size : Nat}

/-! ## §1. The rules. -/

/-- The expression is made of the tokens, some of which may be given up. -/
inductive Salvages : Phrase → List Token → Expr → Prop where
  /-- Tokens that are given up leave a hole. -/
  | lost (ts : List Token) : Salvages .factor ts .missing
  | name {t : Token} (kind : t.kind = .identifier) :
      Salvages .factor [t] (.reference t.text t.span)
  | number {t : Token} {value : Int32} (kind : t.kind = .number)
      (fits : Number.read? t.text.toList = some value) :
      Salvages .factor [t] (.literal value t.text t.span)
  | parentheses {opening closing : Token} {ts : List Token} {e : Expr}
      (opens : opening.kind = .leftParen) (sum : Salvages .sum ts e)
      (closes : closing.kind = .rightParen) :
      Salvages .factor (opening :: (ts ++ [closing]))
        (e.parenthesized (opening.span.hull closing.span))
  /-- An operand of a layer is a chain of it. -/
  | first {layer : Layer} {ts : List Token} {e : Expr}
      (operand : Salvages layer.operand ts e) : Salvages layer.phrase ts e
  /-- A chain of a layer with one more operator and operand of it is a chain of it. -/
  | extend {layer : Layer} {t : Token} {op : Operator} {ts us : List Token} {e f : Expr}
      (left : Salvages layer.phrase ts e) (mark : layer.operator? t.kind = some op)
      (right : Salvages layer.operand us f) :
      Salvages layer.phrase (ts ++ t :: us) (.ofOperands op t.span e f)

/-- The program is made of the tokens; only those of its expression may be given up. -/
inductive SalvagesProgram : List Token → Program → Prop where
  | bare {ts : List Token} {body : Expr} (present : body ≠ .missing)
      (sum : Salvages .sum ts body) : SalvagesProgram ts (.bare body present)
  | declaring {opening : Token} {ts us : List Token} {declared : List Declaration} {body : Expr}
      (kind : opening.kind = .withKeyword) (header : BuildsHeader ts declared)
      (sum : Salvages .sum us body) :
      SalvagesProgram (opening :: (ts ++ us)) (.declaring opening.span declared body)

/-! ## §2. Reading follows the rules. -/

/-- What the reader has made comes from the tokens `us`; behind a left part that comes
from other tokens, it comes from both together. -/
def Reader.Salvaged (us : List Token) (e : Expr) : Reader → Prop
  | operand layer => Salvages layer.operand us e
  | chain layer => Salvages layer.phrase us e
  | extension layer left =>
    ∀ ls, Salvages layer.phrase ls left → Salvages layer.phrase (ls ++ us) e
  | factor => Salvages .factor us e

/-- Whatever a reader makes of tokens is salvaged from those that it takes. -/
theorem Reads.salvages {reader : Reader} {ts rest : List Token} {e : Expr} {events : List Event}
    (h : Reads size reader ts e rest events) : ∃ us, ts = us ++ rest ∧ reader.Salvaged us e := by
  induction h with
  | sumOperand _ ih =>
    obtain ⟨us, rfl, hu⟩ := ih
    exact ⟨us, rfl, hu⟩
  | productOperand _ ih =>
    obtain ⟨us, rfl, hu⟩ := ih
    exact ⟨us, rfl, hu⟩
  | chain _ _ ihf ihm =>
    obtain ⟨us, rfl, hu⟩ := ihf
    obtain ⟨vs, rfl, hv⟩ := ihm
    exact ⟨us ++ vs, (List.append_assoc us vs _).symm, hv us (.first hu)⟩
  | stop =>
    -- nothing is taken, and the left part stays as it is
    refine ⟨[], rfl, ?_⟩
    intro ls hl
    rwa [List.append_nil]
  | @extend layer left right e t op ts mid rest before after hop _ _ ihr ihm =>
    obtain ⟨us, rfl, hu⟩ := ihr
    obtain ⟨vs, rfl, hv⟩ := ihm
    refine ⟨t :: (us ++ vs), by simp, ?_⟩
    intro ls hl
    have hwhole := hv (ls ++ t :: us) (.extend hl hop hu)
    rwa [List.append_assoc, List.cons_append] at hwhole
  | @literal t ts value hk hv => exact ⟨[t], rfl, .number hk hv⟩
  | @outOfRange t ts _ _ =>
    obtain ⟨us, hus⟩ := (recover size (.numberOutOfRange t) ts).suffix
    exact ⟨t :: us, by rw [List.cons_append, hus], .lost _⟩
  | @reference t ts hk => exact ⟨[t], rfl, .name hk⟩
  | @group opening closing ts rest inner events hk _ hc ih =>
    obtain ⟨us, rfl, hu⟩ := ih
    exact ⟨opening :: (us ++ [closing]), by simp, .parentheses hk hu hc⟩
  | @unclosed opening ts mid inner events _ _ _ ih =>
    -- whatever the sum has made is given up too
    obtain ⟨us, rfl, -⟩ := ih
    obtain ⟨vs, hvs⟩ :=
      (recover size (.unclosedParenthesis opening (lookAhead size mid)) mid).suffix
    exact ⟨opening :: (us ++ vs), by rw [List.cons_append, List.append_assoc, hvs], .lost _⟩
  | @unexpected ts _ =>
    obtain ⟨us, hus⟩ := (recover size (.unexpectedInExpression (lookAhead size ts)) ts).suffix
    exact ⟨us, hus.symm, .lost _⟩

/-- Whatever program is read of tokens is salvaged from those that it takes. -/
theorem ReadsUnit.salvages {ts rest : List Token} {program : Option Program}
    {events : List Event} (h : ReadsUnit size ts program rest events) {p : Program}
    (hp : program = some p) : ∃ us, ts = us ++ rest ∧ SalvagesProgram us p := by
  cases h with
  | @bare _ _ body _ _ hs =>
    obtain ⟨us, rfl, hu⟩ := hs.salvages
    by_cases hb : body = .missing
    · -- a hole alone is no program
      rw [hb, Program.ofExpr?_missing] at hp
      cases hp
    · rw [Program.ofExpr?_of_ne hb] at hp
      cases hp
      exact ⟨us, rfl, .bare hb hu⟩
  | @declaring opening ts mid rest declared body before after hw hh hs =>
    cases hp
    obtain ⟨us, rfl, hu⟩ := hh.builds rfl
    obtain ⟨vs, rfl, hv⟩ := hs.salvages
    exact ⟨opening :: (us ++ vs), by simp, .declaring hw hu hv⟩
  | abandoned => cases hp

/-- The program of a source, with or without errors, is salvaged from the tokens at the
start of the source. -/
theorem exists_salvagesProgram {source : String} {p : Program}
    (h : (parse source).program = some p) :
    ∃ us rest, tokens source = us ++ rest ∧ SalvagesProgram us p := by
  obtain ⟨us, hus, hp⟩ := (readsUnit_parseUnit (sourceSize source) (tokens source)).salvages h
  exact ⟨us, _, hus, hp⟩

end Calculator
