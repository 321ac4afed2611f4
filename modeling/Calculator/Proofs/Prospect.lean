/-
  Calculator.Proofs.Prospect
  ──────────────────────────
  **WHAT MAY COME NEXT.**

  Whether a token may stand behind the beginning of a program hangs on little: on
  the part of the declaration that is due, on whether an operand or an operator is
  due, and on how many parentheses are open.  That is a `Prospect`, and tokens
  lead from one to the next or nowhere (`run`).

  Main statements:
    * `DerivesProgram.run` — a program leads to its end;
    * `run_finish`         — from each prospect some tokens lead there.
-/
import Calculator.Proofs.Recognition

namespace Calculator

/-! ## §1. Prospects. -/

/-- What is due behind the beginning of a program. -/
inductive Prospect where
  /-- Nothing has come: a declaration or an operand. -/
  | start
  /-- A name to declare. -/
  | name
  /-- The comma or the colon behind a name. -/
  | mark
  /-- An operand, while `depth` parentheses are open. -/
  | operand (depth : Nat)
  /-- What can stand behind an operand, while `depth` parentheses are open. -/
  | operator (depth : Nat)
  /-- Nothing more: the end has come. -/
  | done
  deriving DecidableEq, Repr, Inhabited

namespace Prospect

/-- What is due behind a token where an operand is due. -/
def advanceOperand (depth : Nat) (t : Token) : Option Prospect :=
  match t.kind with
  | .number => if (Number.read? t.text.toList).isSome then some (operator depth) else none
  | .identifier => some (operator depth)
  | .leftParen => some (operand (depth + 1))
  | _ => none

/-- What is due behind a token, if it may stand there. -/
def advance : Prospect → Token → Option Prospect
  | start, t => if t.kind = .withKeyword then some name else advanceOperand 0 t
  | name, t => if t.kind = .identifier then some mark else none
  | mark, t =>
    if t.kind = .comma then some name else if t.kind = .colon then some (operand 0) else none
  | operand depth, t => advanceOperand depth t
  | operator depth, t =>
    match t.kind, depth with
    | .plus, _ | .minus, _ | .star, _ | .slash, _ => some (operand depth)
    | .rightParen, outer + 1 => some (operator outer)
    | .endOfInput, 0 => some done
    | _, _ => none
  | done, _ => none

/-- What is due behind tokens, if each may stand where it does. -/
def run (p : Prospect) : List Token → Option Prospect
  | [] => some p
  | t :: ts => (p.advance t).bind fun q => q.run ts

@[simp] theorem run_nil (p : Prospect) : p.run [] = some p := rfl

@[simp] theorem run_cons (p : Prospect) (t : Token) (ts : List Token) :
    p.run (t :: ts) = (p.advance t).bind fun q => q.run ts := rfl

theorem run_append (p : Prospect) (us vs : List Token) :
    p.run (us ++ vs) = (p.run us).bind fun q => q.run vs := by
  induction us generalizing p with
  | nil => rfl
  | cons t us ih =>
    simp only [List.cons_append, run_cons]
    cases p.advance t with
    | none => rfl
    | some q => exact ih q

/-- Tokens that lead somewhere do so up to each of them. -/
theorem isSome_run_of_append {p : Prospect} {us vs : List Token}
    (h : (p.run (us ++ vs)).isSome = true) : (p.run us).isSome = true := by
  rw [run_append] at h
  cases hu : p.run us with
  | none =>
    rw [hu] at h
    exact h
  | some q => rfl

/-! ### Where an operator is due -/

/-- An operator of any layer makes an operand due. -/
theorem advance_operator_of_operator? {layer : Layer} {t : Token} {op : Operator}
    (h : layer.operator? t.kind = some op) (depth : Nat) :
    (operator depth).advance t = some (operand depth) := by
  cases layer with
  | sum =>
    rcases Layer.operator?_sum_eq_some_iff.1 h with ⟨hk, -⟩ | ⟨hk, -⟩
    · simp [advance, hk]
    · simp [advance, hk]
  | product =>
    rcases Layer.operator?_product_eq_some_iff.1 h with ⟨hk, -⟩ | ⟨hk, -⟩
    · simp [advance, hk]
    · simp [advance, hk]

/-- A closing parenthesis closes the innermost open one. -/
theorem advance_operator_of_rightParen {t : Token} (h : t.kind = .rightParen) (depth : Nat) :
    (operator (depth + 1)).advance t = some (operator depth) := by
  simp [advance, h]

/-- Where all parentheses are closed the end may come. -/
theorem advance_operator_of_endOfInput {t : Token} (h : t.kind = .endOfInput) :
    (operator 0).advance t = some done := by
  simp [advance, h]

/-- Where an operator is due, any other token than these leads nowhere. -/
theorem advance_operator_eq_none {t : Token} {depth : Nat}
    (hs : Layer.sum.operator? t.kind = none) (hp : Layer.product.operator? t.kind = none)
    (hc : depth = 0 ∨ t.kind ≠ .rightParen) (he : depth ≠ 0 ∨ t.kind ≠ .endOfInput) :
    (operator depth).advance t = none := by
  unfold advance
  cases hk : t.kind <;> rw [hk] at hs hp hc he <;> cases depth <;>
    simp_all [Layer.operator?]

/-! ### Where an operand is due -/

section
variable {t : Token} (depth : Nat)

theorem advance_operand_of_number (h : t.kind = .number) {v : Int32}
    (hv : Number.read? t.text.toList = some v) :
    (operand depth).advance t = some (operator depth) := by
  simp [advance, advanceOperand, h, hv]

theorem advance_operand_of_large (h : t.kind = .number)
    (hv : Number.read? t.text.toList = none) : (operand depth).advance t = none := by
  simp [advance, advanceOperand, h, hv]

theorem advance_operand_of_identifier (h : t.kind = .identifier) :
    (operand depth).advance t = some (operator depth) := by
  simp [advance, advanceOperand, h]

theorem advance_operand_of_leftParen (h : t.kind = .leftParen) :
    (operand depth).advance t = some (operand (depth + 1)) := by
  simp [advance, advanceOperand, h]

/-- A token that starts no factor leads nowhere. -/
theorem advance_operand_eq_none (h : t.kind.startsFactor = false) :
    (operand depth).advance t = none := by
  unfold advance advanceOperand
  cases hk : t.kind <;> simp_all [TokenKind.startsFactor]

end

/-! ### Where a declaration or a part of it is due -/

section
variable {t : Token}

theorem advance_start_of_with (h : t.kind = .withKeyword) : start.advance t = some name :=
  if_pos h

/-- Without a declaration an operand is due at the start. -/
theorem advance_start_of_ne (h : t.kind ≠ .withKeyword) :
    start.advance t = (operand 0).advance t :=
  if_neg h

theorem advance_name (h : t.kind = .identifier) : name.advance t = some mark := if_pos h

theorem advance_name_eq_none (h : t.kind ≠ .identifier) : name.advance t = none := if_neg h

theorem advance_mark_of_comma (h : t.kind = .comma) : mark.advance t = some name := if_pos h

theorem advance_mark_of_colon (h : t.kind = .colon) : mark.advance t = some (operand 0) := by
  simp [advance, h]

theorem advance_mark_eq_none (h : t.kind ≠ .comma) (h' : t.kind ≠ .colon) :
    mark.advance t = none :=
  (if_neg h).trans (if_neg h')

end

end Prospect

/-! ## §2. Derived tokens lead to their end. -/

/-- Two operands with an operator between them lead as far as one of them. -/
theorem Prospect.run_operands {layer : Layer} {t : Token} {op : Operator} {us vs : List Token}
    {depth : Nat} (hop : layer.operator? t.kind = some op)
    (hu : (operand depth).run us = some (operator depth))
    (hv : (operand depth).run vs = some (operator depth)) :
    (operand depth).run (us ++ t :: vs) = some (operator depth) := by
  rw [run_append, hu, Option.bind_some, run_cons, advance_operator_of_operator? hop depth,
    Option.bind_some, hv]

/-- Behind a phrase an operator is due where an operand was. -/
theorem Derives.run {phrase : Phrase} {us : List Token} {e : Shape}
    (h : Derives phrase us e) (hf : ∀ t ∈ us, t.Fits) (depth : Nat) :
    (Prospect.operand depth).run us = some (.operator depth) := by
  induction h generalizing depth with
  | @name t hk =>
    rw [Prospect.run_cons, Prospect.advance_operand_of_identifier depth hk]
    rfl
  | @number t n hk hn =>
    obtain ⟨m, hm, hle⟩ := hf t (List.mem_cons_self ..) hk
    obtain ⟨v, hv, -⟩ := Token.read?_isSome hm hle
    rw [Prospect.run_cons, Prospect.advance_operand_of_number depth hk hv]
    rfl
  | @parentheses opening closing ts e ho _ hc ih =>
    rw [List.forall_mem_cons, List.forall_mem_append] at hf
    -- the sum inside is read with one more parenthesis open
    rw [Prospect.run_cons, Prospect.advance_operand_of_leftParen depth ho, Option.bind_some,
      Prospect.run_append, ih hf.2.1, Option.bind_some, Prospect.run_cons,
      Prospect.advance_operator_of_rightParen hc]
    rfl
  | product _ ih => exact ih hf depth
  | times _ hmark _ ihl ihr =>
    rw [List.forall_mem_append, List.forall_mem_cons] at hf
    have hop := Layer.operator?_product_eq_some_iff.2 hmark
    exact Prospect.run_operands hop (ihl hf.1 depth) (ihr hf.2.2 depth)
  | sum _ ih => exact ih hf depth
  | plus _ hmark _ ihl ihr =>
    rw [List.forall_mem_append, List.forall_mem_cons] at hf
    have hop := Layer.operator?_sum_eq_some_iff.2 hmark
    exact Prospect.run_operands hop (ihl hf.1 depth) (ihr hf.2.2 depth)

/-- Behind a declaration the first operand is due. -/
theorem Declares.run {us : List Token} {names : List String} (h : Declares us names) :
    Prospect.name.run us = some (.operand 0) := by
  induction h with
  | last hn hc =>
    rw [Prospect.run_cons, Prospect.advance_name hn, Option.bind_some, Prospect.run_cons,
      Prospect.advance_mark_of_colon hc]
    rfl
  | more hn hm _ ih =>
    rw [Prospect.run_cons, Prospect.advance_name hn, Option.bind_some, Prospect.run_cons,
      Prospect.advance_mark_of_comma hm, Option.bind_some, ih]

/-- Behind a program its end is due. -/
theorem DerivesProgram.run {us : List Token} {names : Option (List String)} {e : Shape}
    (h : DerivesProgram us names e) (hf : ∀ t ∈ us, t.Fits) :
    Prospect.start.run us = some (.operator 0) := by
  cases h with
  | bare hs =>
    have hrun := hs.run hf 0
    -- the first token of a sum declares nothing
    obtain ⟨t, vs, rfl, hk⟩ := hs.exists_cons
    have hw : t.kind ≠ .withKeyword := by
      intro hw
      rw [hw] at hk
      cases hk
    rwa [Prospect.run_cons, Prospect.advance_start_of_ne hw]
  | @declaring opening us vs names _ hw hh hs =>
    rw [List.forall_mem_cons, List.forall_mem_append] at hf
    rw [Prospect.run_cons, Prospect.advance_start_of_with hw, Option.bind_some,
      Prospect.run_append, hh.run, Option.bind_some, hs.run hf.2.2]

/-! ## §3. From each prospect tokens lead to the end. -/

namespace Prospect

/-- Closing parentheses for all that are open. -/
def closings (depth : Nat) : List Token := List.replicate depth (.ofText 0 [')'])

/-- A name, as a variable or as a declaration of one. -/
def nameToken : Token := .ofText 0 ['x']

/-- Tokens that lead from the prospect to where the end of a program is due. -/
def finish : Prospect → List Token
  | start => [nameToken]
  | name => [nameToken, .ofText 0 [':'], nameToken]
  | mark => [.ofText 0 [':'], nameToken]
  | operand depth => nameToken :: closings depth
  | operator depth => closings depth
  | done => []

private theorem run_closings (depth : Nat) :
    (operator depth).run (closings depth) = some (operator 0) := by
  induction depth with
  | zero => rfl
  | succ depth ih =>
    show ((operator (depth + 1)).advance (.ofText 0 [')'])).bind
      (fun q => q.run (closings depth)) = _
    rw [advance_operator_of_rightParen rfl, Option.bind_some, ih]

theorem run_finish {p : Prospect} (h : p ≠ done) : p.run p.finish = some (operator 0) := by
  cases p with
  | start => rfl
  | name => rfl
  | mark => rfl
  | operand depth => exact run_closings depth
  | operator depth => exact run_closings depth
  | done => exact absurd rfl h

theorem hasDecimal_of_mem_finish {p : Prospect} {t : Token} (h : t ∈ p.finish) :
    t.HasDecimal := by
  have hname : nameToken.HasDecimal := Token.hasDecimal_of_ne (by decide)
  have hcolon : (Token.ofText 0 [':']).HasDecimal := Token.hasDecimal_of_ne (by decide)
  have hclosings : ∀ depth, ∀ t ∈ closings depth, t.HasDecimal := by
    intro depth t ht
    rw [List.eq_of_mem_replicate ht]
    exact Token.hasDecimal_of_ne (by decide)
  cases p with
  | start => simp_all [finish]
  | name => rcases (by simpa [finish] using h) with rfl | rfl | rfl <;> assumption
  | mark => rcases (by simpa [finish] using h) with rfl | rfl <;> assumption
  | operand depth =>
    rcases List.mem_cons.1 h with rfl | h
    · exact hname
    · exact hclosings depth t h
  | operator depth => exact hclosings depth t h
  | done => cases h

theorem advanceOperand_ne_done (depth : Nat) (t : Token) :
    advanceOperand depth t ≠ some done := by
  unfold advanceOperand
  split
  · split
    · simp
    · simp
  · simp
  · simp
  · simp

/-- Only the end of a source leads to the prospect of nothing more. -/
theorem kind_of_advance_eq_done {p : Prospect} {t : Token} (h : p.advance t = some done) :
    p = operator 0 ∧ t.kind = .endOfInput := by
  cases p with
  | start =>
    simp only [advance] at h
    split at h
    · cases h
    · exact absurd h (advanceOperand_ne_done 0 t)
  | name =>
    simp only [advance] at h
    split at h
    · cases h
    · cases h
  | mark =>
    simp only [advance] at h
    split at h
    · cases h
    · split at h
      · cases h
      · cases h
  | operand depth => exact absurd h (advanceOperand_ne_done depth t)
  | operator depth =>
    simp only [advance] at h
    split at h
    -- the four operators and the closing parenthesis leave something due
    · cases h
    · cases h
    · cases h
    · cases h
    · cases h
    · next hk => exact ⟨rfl, hk⟩
    · cases h
  | done => cases h

end Prospect

end Calculator
