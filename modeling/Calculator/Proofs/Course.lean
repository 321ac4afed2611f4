/-
  Calculator.Proofs.Course
  ────────────────────────
  **READING TAKES TOKENS ONE AFTER THE OTHER.**

  What a reader does to its tokens is the same thing over and over (`Course`): a token is
  taken and the one behind it comes into sight, or tokens are left out behind an error.  So
  at any time the tokens that have come into sight are those taken and the one ahead.

  Main statements:
    * `Reads.course`, `ReadsUnit.course` — reading goes on like that;
    * `Course.seen`                      — what comes into sight meanwhile;
    * `seen_in_order`                    — for a source, these are its first tokens.
-/
import Calculator.Proofs.ErrorOrder
import Calculator.Proofs.Holes

namespace Calculator

variable {size : Nat}

/-! ## §1. Tokens in sight. -/

/-- The tokens that come into sight, in order. -/
def seenOf (events : List Event) : List Token := events.filterMap Event.token?

@[simp] theorem seenOf_nil : seenOf [] = [] := rfl

@[simp] theorem seenOf_append (before after : List Event) :
    seenOf (before ++ after) = seenOf before ++ seenOf after :=
  List.filterMap_append

@[simp] theorem seenOf_sighted (t : Token) (events : List Event) :
    seenOf (.sighted t :: events) = t :: seenOf events := rfl

@[simp] theorem seenOf_resumed (n : Nat) (t : Token) (events : List Event) :
    seenOf (.resumed n t :: events) = seenOf events := rfl

@[simp] theorem seenOf_map_sighted (ts : List Token) : seenOf (ts.map .sighted) = ts := by
  induction ts with
  | nil => rfl
  | cons t ts ih => rw [List.map_cons, seenOf_sighted, ih]

/-- At a token of a kind that resumes, nothing is left out. -/
theorem skipUntil_of_resumes {resumes : TokenKind → Bool} {t : Token}
    (h : resumes t.kind = true) (size n : Nat) (ts : List Token) :
    (skipUntil size resumes n (t :: ts)).rest = t :: ts ∧
      (skipUntil size resumes n (t :: ts)).journal.events = [.resumed n t] := by
  simp [skipUntil, h]

/-- Any other token is left out, and the one behind it comes into sight. -/
theorem skipUntil_of_passes {resumes : TokenKind → Bool} {t : Token}
    (h : resumes t.kind = false) (size n : Nat) (ts : List Token) :
    (skipUntil size resumes n (t :: ts)).rest = (skipUntil size resumes (n + 1) ts).rest ∧
      (skipUntil size resumes n (t :: ts)).journal.events =
        .sighted (lookAhead size ts) ::
          (skipUntil size resumes (n + 1) ts).journal.events := by
  simp [skipUntil, h]

/-- Of the tokens `ts` those in front of the first that `resumes` are left out: they are passed
one by one, and then it is told how many they are, besides `n`, and what is ahead. -/
structure Skips (size : Nat) (resumes : TokenKind → Bool) (n : Nat)
    (ts skipped rest : List Token) (events : List Event) : Prop where
  tokens : ts = skipped ++ rest
  passes : ∀ t ∈ skipped, resumes t.kind = false
  stops : ∀ t ∈ rest.head?, resumes t.kind = true
  events : ∃ pulled : List Token, lookAhead size ts :: pulled = skipped ++ [lookAhead size rest] ∧
    events = pulled.map .sighted ++ [.resumed (n + skipped.length) (lookAhead size rest)]

theorem exists_skips (size : Nat) (resumes : TokenKind → Bool) (n : Nat) (ts : List Token) :
    ∃ skipped, Skips size resumes n ts skipped (skipUntil size resumes n ts).rest
      (skipUntil size resumes n ts).journal.events := by
  induction ts generalizing n with
  | nil => exact ⟨[], rfl, by simp, by simp [skipUntil], [], rfl, rfl⟩
  | cons t ts ih =>
    cases hk : resumes t.kind with
    | true =>
      obtain ⟨hrest, hevents⟩ := skipUntil_of_resumes hk size n ts
      rw [hrest, hevents]
      exact ⟨[], rfl, by simp, by simpa using hk, [], rfl, rfl⟩
    | false =>
      obtain ⟨hrest, hevents⟩ := skipUntil_of_passes hk size n ts
      obtain ⟨skipped, htokens, hpasses, hstops, pulled, hpulled, hlater⟩ := ih (n + 1)
      rw [hrest, hevents]
      refine ⟨t :: skipped, congrArg (t :: ·) htokens, List.forall_mem_cons.2 ⟨hk, hpasses⟩,
        hstops, lookAhead size ts :: pulled, ?_, ?_⟩
      · rw [hpulled]
        rfl
      · rw [hlater, List.map_cons, List.length_cons, Nat.add_right_comm]
        rfl

/-! ## §2. The course of reading. -/

namespace SyntaxError

/-- Whether reading goes on behind the error at a token of the kind. -/
def resumes : SyntaxError → TokenKind → Bool
  | unexpectedToken _ _ => fun _ => false
  | unexpectedInExpression _ => TokenKind.followsOperand
  | unclosedParenthesis _ _ => TokenKind.followsOperand
  | trailingInput _ => fun _ => false
  | numberOutOfRange _ => TokenKind.followsOperand

/-- What happens when the error is found. -/
def event : SyntaxError → Event
  | unexpectedToken found expected => .abandoned (.unexpectedToken found expected)
  | unexpectedInExpression found => .found (.unexpectedInExpression found)
  | unclosedParenthesis opener found => .found (.unclosedParenthesis opener found)
  | trailingInput found => .found (.trailingInput found)
  | numberOutOfRange found => .found (.numberOutOfRange found)

/-- The error is found at the token ahead, which is not taken. -/
inductive ShowsAhead (size : Nat) (ts : List Token) : SyntaxError → Prop where
  | header (expected : TokenKind) :
      ShowsAhead size ts (.unexpectedToken (lookAhead size ts) expected)
  | operand : ShowsAhead size ts (.unexpectedInExpression (lookAhead size ts))
  | parenthesis (opener : Token) :
      ShowsAhead size ts (.unclosedParenthesis opener (lookAhead size ts))

@[simp] theorem seenOf_event (e : SyntaxError) (events : List Event) :
    seenOf (e.event :: events) = seenOf events := by
  cases e <;> rfl

end SyntaxError

/-- How reading goes on from the tokens `ts` to `rest`, and what happens meanwhile. -/
inductive Course (size : Nat) : List Token → List Token → List Event → Prop where
  | stay (ts : List Token) : Course size ts ts []
  /-- A token is taken, and what is behind it comes into sight. -/
  | take (t : Token) (ts : List Token) : Course size (t :: ts) ts [.sighted (lookAhead size ts)]
  /-- Behind an error at the token ahead, tokens are left out from that token on. -/
  | lose {error : SyntaxError} {ts skipped rest : List Token} {events : List Event}
      (ahead : error.ShowsAhead size ts)
      (skips : Skips size error.resumes 0 ts skipped rest events) :
      Course size ts rest (error.event :: events)
  /-- A number that is out of range is taken, and tokens are left out behind it. -/
  | loseNumber {t : Token} {ts skipped rest : List Token} {events : List Event}
      (skips : Skips size (SyntaxError.numberOutOfRange t).resumes 0 ts skipped rest events) :
      Course size (t :: ts) rest
        (.sighted (lookAhead size ts) :: (SyntaxError.numberOutOfRange t).event :: events)
  | join {ts mid rest : List Token} {before after : List Event}
      (first : Course size ts mid before) (second : Course size mid rest after) :
      Course size ts rest (before ++ after)

/-- The course of an expression. -/
theorem Reads.course {reader : Reader} {ts rest : List Token} {e : Expr} {events : List Event}
    (h : Reads size reader ts e rest events) : Course size ts rest events := by
  induction h with
  | sumOperand _ ih => exact ih
  | productOperand _ ih => exact ih
  | chain _ _ ihf ihm => exact .join ihf ihm
  | @stop _ _ ts => exact .stay ts
  | @extend _ _ _ _ t _ ts _ _ _ _ _ _ _ ihr ihm => exact .join (.take t ts) (.join ihr ihm)
  | @literal t ts => exact .take t ts
  | @outOfRange t ts =>
    obtain ⟨skipped, hskips⟩ := exists_skips size TokenKind.followsOperand 0 ts
    exact .loseNumber hskips
  | @reference t ts => exact .take t ts
  | @group opening closing ts rest _ _ _ _ _ ih =>
    exact .join (.take opening ts) (.join ih (.take closing rest))
  | @unclosed opening ts mid _ _ _ _ _ ih =>
    obtain ⟨skipped, hskips⟩ := exists_skips size TokenKind.followsOperand 0 mid
    exact .join (.take opening ts) (.join ih (.lose (.parenthesis opening) hskips))
  | @unexpected ts =>
    obtain ⟨skipped, hskips⟩ := exists_skips size TokenKind.followsOperand 0 ts
    exact .lose .operand hskips

/-- The course of a declaration. -/
theorem ReadsHeader.course {ts rest : List Token} {value : Except SyntaxError (List Declaration)}
    {events : List Event} (h : ReadsHeader size ts value rest events) :
    Course size ts rest events := by
  induction h with
  | @last name mark ts => exact .join (.take name (mark :: ts)) (.take mark ts)
  | @more name mark ts _ _ _ _ _ _ ih =>
    exact .join (.take name (mark :: ts)) (.join (.take mark ts) ih)
  | @noName ts => exact .stay ts
  | @noMark name ts => exact .take name ts

/-- The course of a program. -/
theorem ReadsUnit.course {ts rest : List Token} {program : Option Program} {events : List Event}
    (h : ReadsUnit size ts program rest events) : Course size ts rest events := by
  cases h with
  | bare _ hs => exact hs.course
  | @declaring opening ts _ _ _ _ _ _ _ hh hs =>
    exact .join (.take opening ts) (.join hh.course hs.course)
  | @abandoned opening ts mid error before _ hh =>
    obtain ⟨kind, rfl⟩ := hh.exists_unexpectedToken rfl
    obtain ⟨skipped, hskips⟩ := exists_skips size (fun _ => false) 0 mid
    exact .join (.take opening ts) (.join hh.course (.lose (.header kind) hskips))

/-- The tokens that have come into sight are those that are taken and the one ahead. -/
theorem Course.seen {ts rest : List Token} {events : List Event} (h : Course size ts rest events) :
    ∃ us, ts = us ++ rest ∧ lookAhead size ts :: seenOf events = us ++ [lookAhead size rest] := by
  have hskips : ∀ {resumes n ts skipped rest events},
      Skips size resumes n ts skipped rest events →
        lookAhead size ts :: seenOf events = skipped ++ [lookAhead size rest] := by
    rintro resumes n ts skipped rest events ⟨-, -, -, pulled, hpulled, rfl⟩
    simpa using hpulled
  induction h with
  | stay ts => exact ⟨[], rfl, rfl⟩
  | take t ts => exact ⟨[t], rfl, rfl⟩
  | lose _ hs => exact ⟨_, hs.tokens, by simpa using hskips hs⟩
  | @loseNumber t ts skipped rest events hs =>
    refine ⟨t :: skipped, by rw [hs.tokens, List.cons_append], ?_⟩
    rw [seenOf_sighted, SyntaxError.seenOf_event, hskips hs]
    rfl
  | join _ _ ihf ihs =>
    obtain ⟨us, rfl, hus⟩ := ihf
    obtain ⟨vs, rfl, hvs⟩ := ihs
    refine ⟨us ++ vs, (List.append_assoc us vs _).symm, ?_⟩
    rw [seenOf_append, ← List.cons_append, hus, List.append_assoc, List.append_assoc, ← hvs]
    rfl

/-- No token is given back. -/
theorem Course.suffix {ts rest : List Token} {events : List Event}
    (h : Course size ts rest events) : rest <:+ ts := by
  obtain ⟨us, htokens, -⟩ := h.seen
  exact ⟨us, htokens.symm⟩

/-! ## §3. Sources. -/

/-- What is read of a source: its tokens up to the one ahead are taken, and they and that one
are what comes into sight. -/
theorem seen_parse (source : String) :
    ∃ us rest, tokens source = us ++ rest ∧
      (parse source).journal.seen = us ++ [lookAhead (sourceSize source) rest] ∧
      (parseUnit (sourceSize source) (tokens source)).rest = rest := by
  obtain ⟨us, hus, hseen⟩ :=
    (readsUnit_parseUnit (sourceSize source) (tokens source)).course.seen
  refine ⟨us, _, hus, ?_, rfl⟩
  have htrailing : ∀ left : List Token, seenOf (trailing left).events = [] := by
    intro left
    cases left <;> rfl
  show seenOf (Journal.events (.entry _ (.join _ _))) = _
  rw [Journal.events_entry, Journal.events_join, seenOf_sighted, seenOf_append, htrailing,
    List.append_nil]
  exact hseen

/-- The tokens that come into sight are the first ones of the source. -/
theorem seen_in_order (source : String) : (parse source).journal.seen <+: scan source := by
  obtain ⟨us, rest, htokens, hseen, -⟩ := seen_parse source
  rw [hseen, scan, htokens, List.append_assoc, List.prefix_append_right_inj]
  cases rest with
  | nil => exact List.prefix_rfl
  | cons t behind => exact ⟨behind ++ [endToken source], rfl⟩

/-- An error in the program is not about the tokens behind it. -/
theorem isTrailing_of_mem_unit {source : String} {error : SyntaxError}
    (h : error ∈ errorsOf (parseUnit (sourceSize source) (tokens source)).journal.events) :
    error.isTrailing = false := by
  rcases (readsUnit_parseUnit (sourceSize source) (tokens source)).outcome with
    ⟨u, kind, he, -⟩ | ⟨body, -, hleaves, -⟩
  · rw [he] at h
    cases List.mem_singleton.1 h
    rfl
  · exact SyntaxError.isTrailing_of_leavesHole (hleaves error h)

end Calculator
