/-
  Calculator.Proofs.Tracking
  ──────────────────────────
  **READING GOES ALONG WITH WHAT MAY COME NEXT.**

  Whatever reading does with tokens, up to its first error they lead from prospect to
  prospect, and that error is at a token that leads nowhere (`Tracks`).  One rule of
  reading is one step of this; the steps are joined by `Tracks.cons` and
  `Tracks.append`.

  A parenthesis that is not closed is an error at a token that is no operator, since a
  sum stops at nothing that it could still take in (`Reads.exhausts`).

  Main statements: `Reads.tracks`, `ReadsHeader.tracks`, `ReadsUnit.tracks`.
-/
import Calculator.Proofs.Prospect

namespace Calculator

variable {size : Nat}

/-! ## §1. Going along with the prospects. -/

/-- Where the tokens `ts` are read up to `rest`, they lead from one prospect to the
other if there is no error; the first error is at the token that leads nowhere. -/
def Tracks (size : Nat) (p : Prospect) (ts rest : List Token) (q : Prospect) :
    List SyntaxError → Prop
  | [] => ∃ us, ts = us ++ rest ∧ p.run us = some q
  | error :: _ =>
    ∃ us vs r, ts = us ++ vs ∧ lookAhead size vs = error.found ∧ p.run us = some r ∧
      r.advance error.found = none

namespace Tracks

variable {p q r : Prospect} {t : Token} {ts mid rest : List Token}
  {error : SyntaxError} {errors later : List SyntaxError}

theorem stay : Tracks size p ts ts p [] := ⟨[], rfl, rfl⟩

theorem fail (hf : lookAhead size ts = error.found) (ha : p.advance error.found = none) :
    Tracks size p ts rest q (error :: errors) :=
  ⟨[], ts, p, rfl, hf, rfl, ha⟩

theorem cons (ha : p.advance t = some q) (h : Tracks size q ts rest r errors) :
    Tracks size p (t :: ts) rest r errors := by
  cases errors with
  | nil =>
    obtain ⟨us, rfl, hu⟩ := h
    refine ⟨t :: us, rfl, ?_⟩
    rw [Prospect.run_cons, ha]
    exact hu
  | cons error errors =>
    obtain ⟨us, vs, r', rfl, hf, hu, hn⟩ := h
    refine ⟨t :: us, vs, r', rfl, hf, ?_, hn⟩
    rw [Prospect.run_cons, ha]
    exact hu

/-- Where two prospects agree on the token ahead, reading that goes along with one
of them and does not end in it goes along with the other. -/
theorem of_agree (ha : p.advance (lookAhead size ts) = q.advance (lookAhead size ts))
    (hq : q ≠ r) (h : Tracks size q ts rest r errors) : Tracks size p ts rest r errors := by
  cases errors with
  | nil =>
    obtain ⟨us, rfl, hu⟩ := h
    cases us with
    -- without a token reading would end in the prospect that it starts in
    | nil => exact absurd (Option.some.inj hu) hq
    | cons t us =>
      rw [List.cons_append, lookAhead_cons] at ha
      rw [Prospect.run_cons, ← ha] at hu
      exact ⟨t :: us, rfl, hu⟩
  | cons error errors =>
    obtain ⟨us, vs, r', rfl, hf, hu, hn⟩ := h
    cases us with
    -- the first token is the error, and it leads nowhere from either prospect
    | nil =>
      cases hu
      rw [List.nil_append, hf] at ha
      exact ⟨[], vs, p, rfl, hf, rfl, ha.trans hn⟩
    | cons t us =>
      rw [List.cons_append, lookAhead_cons] at ha
      rw [Prospect.run_cons, ← ha] at hu
      exact ⟨t :: us, vs, r', rfl, hf, hu, hn⟩

theorem append (h : Tracks size p ts mid q errors) (h' : Tracks size q mid rest r later) :
    Tracks size p ts rest r (errors ++ later) := by
  cases errors with
  -- what comes behind the first error does not count
  | cons error errors => exact h
  | nil =>
    obtain ⟨us, rfl, hu⟩ := h
    cases later with
    | nil =>
      obtain ⟨vs, rfl, hv⟩ := h'
      refine ⟨us ++ vs, (List.append_assoc us vs rest).symm, ?_⟩
      rw [Prospect.run_append, hu]
      exact hv
    | cons error later =>
      obtain ⟨vs, ws, r', rfl, hf, hv, hn⟩ := h'
      refine ⟨us ++ vs, ws, r', (List.append_assoc us vs ws).symm, hf, ?_, hn⟩
      rw [Prospect.run_append, hu]
      exact hv

end Tracks

/-! ## §2. Expressions. -/

/-- Where the reader starts, an operator is due behind a left part, else an operand. -/
def Reader.prospect (depth : Nat) : Reader → Prospect
  | operand _ => .operand depth
  | chain _ => .operand depth
  | extension _ _ => .operator depth
  | factor => .operand depth

/-- What the reader of `ts` cannot have left ahead: an operator that it would have
taken. -/
def Reader.Exhausts (size : Nat) (ts rest : List Token) : Reader → Prop
  | operand layer => NoTighter size layer rest
  | chain layer =>
    NoTighter size layer rest ∧ layer.operator? (lookAhead size rest).kind = none
  | extension layer _ =>
    NoTighter size layer ts →
      NoTighter size layer rest ∧ layer.operator? (lookAhead size rest).kind = none
  | factor => True

theorem Reads.exhausts {reader : Reader} {ts rest : List Token} {e : Expr}
    {events : List Event} (h : Reads size reader ts e rest events) :
    reader.Exhausts size ts rest := by
  induction h with
  | sumOperand _ ih =>
    intro _
    exact ih.2
  | productOperand _ _ => exact noTighter_product _ _
  | chain _ _ ihf ihm => exact ihm ihf
  | @stop layer left ts hop =>
    intro h
    exact ⟨h, hop⟩
  | extend _ _ _ ihr ihm =>
    intro _
    exact ihm ihr
  | literal => trivial
  | outOfRange => trivial
  | reference => trivial
  | group => trivial
  | unclosed => trivial
  | unexpected => trivial

/-- Behind a sum no operator is left, whatever happened in it. -/
theorem Reads.no_operator {ts rest : List Token} {e : Expr} {events : List Event}
    (h : Reads size (.chain .sum) ts e rest events) :
    Layer.sum.operator? (lookAhead size rest).kind = none ∧
      Layer.product.operator? (lookAhead size rest).kind = none :=
  ⟨h.exhausts.2, h.exhausts.1 rfl⟩

/-- Reading an expression goes along with the prospects, from where an operand is due
to where an operator is, with as many open parentheses. -/
theorem Reads.tracks {reader : Reader} {ts rest : List Token} {e : Expr}
    {events : List Event} (h : Reads size reader ts e rest events) (depth : Nat) :
    Tracks size (reader.prospect depth) ts rest (.operator depth) (errorsOf events) := by
  induction h generalizing depth with
  | sumOperand _ ih => exact ih depth
  | productOperand _ ih => exact ih depth
  | chain _ _ ihf ihm =>
    rw [errorsOf_append]
    exact (ihf depth).append (ihm depth)
  | stop => exact .stay
  | extend hop _ _ ihr ihm =>
    rw [errorsOf_sighted, errorsOf_append]
    exact .cons (Prospect.advance_operator_of_operator? hop depth)
      ((ihr depth).append (ihm depth))
  | literal hk hv => exact .cons (Prospect.advance_operand_of_number depth hk hv) .stay
  | outOfRange hk hv =>
    rw [errorsOf_sighted, errorsOf_recover]
    exact .fail rfl (Prospect.advance_operand_of_large depth hk hv)
  | reference hk => exact .cons (Prospect.advance_operand_of_identifier depth hk) .stay
  | group hk _ hc ih =>
    rw [errorsOf_sighted, errorsOf_append]
    -- inside one more parenthesis is open, and the closing one takes it back
    exact .cons (Prospect.advance_operand_of_leftParen depth hk)
      ((ih (depth + 1)).append (.cons (Prospect.advance_operator_of_rightParen hc depth) .stay))
  | @unclosed opening ts mid inner events hk hsum hc ih =>
    -- the sum ends at neither an operator nor the parenthesis that would close it
    obtain ⟨hs, hp⟩ := hsum.no_operator
    have hn : (Prospect.operator (depth + 1)).advance (lookAhead size mid) = none :=
      Prospect.advance_operator_eq_none hs hp (.inr hc) (.inl (by omega))
    rw [errorsOf_sighted, errorsOf_append, errorsOf_recover]
    exact .cons (Prospect.advance_operand_of_leftParen depth hk)
      ((ih (depth + 1)).append (.fail rfl hn))
  | unexpected hk =>
    rw [errorsOf_recover]
    exact .fail rfl (Prospect.advance_operand_eq_none depth hk)

/-! ## §3. Programs. -/

/-- The error of a declaration, if it has one. -/
def headerErrors : Except SyntaxError (List Declaration) → List SyntaxError
  | .ok _ => []
  | .error error => [error]

/-- Reading a declaration goes along with the prospects. -/
theorem ReadsHeader.tracks {ts rest : List Token} {value : Except SyntaxError (List Declaration)}
    {events : List Event} (h : ReadsHeader size ts value rest events) :
    Tracks size .name ts rest (.operand 0) (headerErrors value) := by
  induction h with
  | last hn hc =>
    exact .cons (Prospect.advance_name hn) (.cons (Prospect.advance_mark_of_colon hc) .stay)
  | @more name mark ts rest value events hn hm _ ih =>
    -- the names in front change nothing about an error
    have hsame : headerErrors (value.map (⟨name.text, name.span⟩ :: ·)) = headerErrors value := by
      cases value <;> rfl
    rw [hsame]
    exact .cons (Prospect.advance_name hn) (.cons (Prospect.advance_mark_of_comma hm) ih)
  | noName hn => exact .fail rfl (Prospect.advance_name_eq_none hn)
  | noMark hn hm hc =>
    exact .cons (Prospect.advance_name hn) (.fail rfl (Prospect.advance_mark_eq_none hm hc))

/-- Reading a program goes along with the prospects. -/
theorem ReadsUnit.tracks {ts rest : List Token} {program : Option Program}
    {events : List Event} (h : ReadsUnit size ts program rest events) :
    Tracks size .start ts rest (.operator 0) (errorsOf events) := by
  cases h with
  | bare hw hs =>
    -- at the start all but a declaration is as where an operand is due
    have hsum : Tracks size (.operand 0) ts rest (.operator 0) (errorsOf events) := hs.tracks 0
    exact hsum.of_agree (Prospect.advance_start_of_ne hw) (by simp)
  | declaring hw hh hs =>
    rw [errorsOf_sighted, errorsOf_append, hh.errorsOf_eq]
    exact .cons (Prospect.advance_start_of_with hw) (hh.tracks.append (hs.tracks 0))
  | abandoned hw hh =>
    rw [errorsOf_sighted, errorsOf_append, hh.errorsOf_eq, errorsOf_abandoned,
      errorsOf_skipUntil]
    exact .cons (Prospect.advance_start_of_with hw) hh.tracks

/-- Behind a program no operator is left either. -/
theorem ReadsUnit.no_operator {ts rest : List Token} {program : Option Program}
    {events : List Event} (h : ReadsUnit size ts program rest events) :
    Layer.sum.operator? (lookAhead size rest).kind = none ∧
      Layer.product.operator? (lookAhead size rest).kind = none := by
  cases h with
  | bare _ hs => exact hs.no_operator
  | declaring _ _ hs => exact hs.no_operator
  | abandoned =>
    rw [rest_skipUntil_never]
    exact ⟨rfl, rfl⟩

end Calculator
