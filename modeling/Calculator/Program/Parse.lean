/-
  Calculator.Program.Parse
  ────────────────────────
  **FROM SOURCE TEXT TO PROGRAMS.**

      Program  :=  ["with" identifier {"," identifier} ":"] Sum

  A source is cut into tokens and read from left to right.  An error in the
  expression leaves a hole there; an error in the declaration gives up the whole
  source, since nothing behind it can be told apart.  Tokens that are left
  behind the program are one error more.
-/
import Calculator.Expr.Parse
import Calculator.Program
import Calculator.Token.Scan

namespace Calculator

/-! ## §1. Declarations. -/

/-- The declared variables and the colon behind them, or the first error. -/
def parseDeclared (size : Nat) :
    (ts : List Token) → Step ts (Except SyntaxError (List Declaration))
  | [] => ⟨.error (.unexpectedToken (.endOfInput size) .identifier), [], .empty, List.suffix_rfl⟩
  | name :: rest =>
    if name.kind = .identifier then
      match rest with
      | [] =>
        ⟨.error (.unexpectedToken (.endOfInput size) .colon), [],
          .entry (.sighted (.endOfInput size)) .empty, List.suffix_cons name []⟩
      | mark :: rest =>
        if mark.kind = .comma then
          let later := parseDeclared size rest
          ⟨later.value.map (⟨name.text, name.span⟩ :: ·), later.rest,
            .entry (.sighted mark) (.entry (.sighted (lookAhead size rest)) later.journal),
            later.suffix.trans ((List.suffix_cons mark rest).trans (List.suffix_cons name _))⟩
        else if mark.kind = .colon then
          ⟨.ok [⟨name.text, name.span⟩], rest,
            .entry (.sighted mark) (.entry (.sighted (lookAhead size rest)) .empty),
            (List.suffix_cons mark rest).trans (List.suffix_cons name _)⟩
        else
          ⟨.error (.unexpectedToken mark .colon), mark :: rest, .entry (.sighted mark) .empty,
            List.suffix_cons name _⟩
    else ⟨.error (.unexpectedToken name .identifier), name :: rest, .empty, List.suffix_rfl⟩

/-! ## §2. Programs. -/

/-- An expression alone. -/
def parseBare (size : Nat) (ts : List Token) : Step ts (Option Program) :=
  let body := parseChain size .sum ts
  ⟨Program.ofExpr? body.value, body.rest, body.journal, body.suffix⟩

/-- The program behind the word `with`; none if its declaration has an error, and
then everything behind the error is left out. -/
def parseDeclaring (size : Nat) (withSpan : Span) (ts : List Token) : Step ts (Option Program) :=
  let header := parseDeclared size ts
  match header.value with
  | .ok declared =>
    let body := parseChain size .sum header.rest
    ⟨some (.declaring withSpan declared body.value), body.rest, .join header.journal body.journal,
      body.suffix.trans header.suffix⟩
  | .error error =>
    -- no kind of token lets the reading resume before the end
    let later := skipUntil size (fun _ => false) 0 header.rest
    ⟨none, later.rest, .join header.journal (.entry (.abandoned error) later.journal),
      later.suffix.trans header.suffix⟩

/-- The program at the start of the tokens. -/
def parseUnit (size : Nat) (ts : List Token) : Step ts (Option Program) :=
  match ts with
  | [] => parseBare size []
  | t :: rest =>
    if t.kind = .withKeyword then
      let program := parseDeclaring size t.span rest
      ⟨program.value, program.rest, .entry (.sighted (lookAhead size rest)) program.journal,
        program.suffix.trans (List.suffix_cons t rest)⟩
    else parseBare size (t :: rest)

/-- The error of tokens that are left behind a program. -/
def trailing : List Token → Journal
  | [] => .empty
  | t :: _ => .entry (.found (.trailingInput t)) .empty

/-- What is made of a source: a program, if there is one to be made, and the
journal of its reading. -/
structure Parse where
  program : Option Program
  journal : Journal
  deriving DecidableEq, Repr

/-- The errors found in the source. -/
def Parse.errors (p : Parse) : List SyntaxError := p.journal.errors

/-- Reads all tokens of a source of `size` bytes. -/
def parseTokens (size : Nat) (ts : List Token) : Parse :=
  let program := parseUnit size ts
  ⟨program.value,
    .entry (.sighted (lookAhead size ts)) (.join program.journal (trailing program.rest))⟩

/-- Reads a source. -/
def parse (source : String) : Parse := parseTokens (Text.width source.toList) (tokens source)

end Calculator
