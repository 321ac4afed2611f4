/-
  Calculator.Proofs.Recovery
  ──────────────────────────
  **BEHIND AN ERROR READING RESUMES AT THE NEXT TOKEN THAT LETS IT.**

  Behind an error tokens are left out, from the token that the error is about on, or, since a
  number that is out of range is taken, from the one behind it on.  They are left out up to
  the first of a kind that can follow an operand, behind an error in a declaration up to the
  end.  One account of this (`Recovery`) has the error, the tokens around it and its records;
  it is made for each `lose` and each `loseNumber` in the course of reading, and joined
  courses have the accounts of both (`Course.accounts`).

  Main statement: `reading_resumes_at_next_mark`.
-/
import Calculator.Log
import Calculator.Proofs.Course

namespace Calculator

variable {size : Nat}

/-! ## §1. Accounts. -/

/-- The kinds of tokens at which reading resumes behind the error. -/
def SyntaxError.resumptions : SyntaxError → List TokenKind
  | unexpectedToken _ _ => [.endOfInput]
  | unexpectedInExpression _ => [.rightParen, .star, .plus, .minus, .slash, .endOfInput]
  | unclosedParenthesis _ _ => [.rightParen, .star, .plus, .minus, .slash, .endOfInput]
  | trailingInput _ => [.endOfInput]
  | numberOutOfRange _ => [.rightParen, .star, .plus, .minus, .slash, .endOfInput]

theorem SyntaxError.mem_resumptions_iff (error : SyntaxError) (kind : TokenKind) :
    kind ∈ error.resumptions ↔ error.resumes kind = true ∨ kind = .endOfInput := by
  cases error <;> cases kind <;> simp [resumptions, resumes, TokenKind.followsOperand]

/-- The account of an error and of what is done behind it: of the tokens of a source some have
been taken, some are skipped, and then reading resumes with `ahead` ahead and the others behind
that one. -/
structure Recovery where
  error : SyntaxError
  taken : List Token
  skipped : List Token
  ahead : Token
  behind : List Token

namespace Recovery

/-- The tokens that are ahead in the meantime. -/
def faced (r : Recovery) : List Token := r.skipped ++ [r.ahead]

/-- Tokens are skipped from the one that the error is about on, or behind a number that is out
of range. -/
def Starts (r : Recovery) : Prop :=
  match r.error with
  | .numberOutOfRange number => r.taken.getLast? = some number
  | .unexpectedToken found _ => r.faced.head? = some found
  | .unexpectedInExpression found => r.faced.head? = some found
  | .unclosedParenthesis _ found => r.faced.head? = some found
  | .trailingInput found => r.faced.head? = some found

/-- What a log tells of the recovery. -/
def records (r : Recovery) : List LogRecord :=
  (match r.error with
    | .unexpectedToken found expected =>
      [⟨.debug, .parsing, "abandoning declaration header: " ++
        (SyntaxError.unexpectedToken found expected).message⟩]
    | .unexpectedInExpression _ => []
    | .unclosedParenthesis _ _ => []
    | .trailingInput _ => []
    | .numberOutOfRange _ => []) ++
  [⟨.debug, .parsing, "recovered after skipping " ++ Nat.repr r.skipped.length ++
    " token(s), resuming at " ++ r.ahead.describe⟩]

/-- What happens behind the error, until reading resumes. -/
def events (r : Recovery) : List Event :=
  r.error.event :: (r.faced.tail.map .sighted ++ [.resumed r.skipped.length r.ahead])

/-- The account is a true one of tokens and of what happens as they are read: tokens are
skipped up to the first of a kind at which reading resumes.  When the error is found, the first
of the tokens faced is in sight, and afterwards those behind come into sight. -/
structure Happens (r : Recovery) (tokens : List Token) (events : List Event) : Prop where
  cut : tokens = r.taken ++ (r.faced ++ r.behind)
  starts : r.Starts
  passes : ∀ t ∈ r.skipped, t.kind ∉ r.error.resumptions
  stops : r.ahead.kind ∈ r.error.resumptions
  course : ∃ before after, events = before ++ (r.events ++ after) ∧
    seenOf before = r.taken ++ r.faced.take 1 ∧ seenOf after <+: r.behind

theorem seenOf_events (r : Recovery) : seenOf r.events = r.faced.tail := by
  show seenOf (r.error.event :: (_ ++ [.resumed _ _])) = _
  rw [SyntaxError.seenOf_event, seenOf_append, seenOf_map_sighted, seenOf_resumed, seenOf_nil,
    List.append_nil]

variable {r : Recovery} {tokens : List Token} {events : List Event}

/-- If no token comes into sight twice or out of order, then what comes into sight afterwards
is what is behind the token at which reading resumes. -/
theorem Happens.of_seen {before after : List Event}
    (cut : tokens = r.taken ++ (r.faced ++ r.behind)) (starts : r.Starts)
    (passes : ∀ t ∈ r.skipped, t.kind ∉ r.error.resumptions)
    (stops : r.ahead.kind ∈ r.error.resumptions) (hevents : events = before ++ (r.events ++ after))
    (hbefore : seenOf before = r.taken ++ r.faced.take 1) (hsight : seenOf events <+: tokens) :
    r.Happens tokens events := by
  refine ⟨cut, starts, passes, stops, before, after, hevents, hbefore, ?_⟩
  have hseen : seenOf events = r.taken ++ (r.faced ++ seenOf after) := by
    rw [hevents, seenOf_append, seenOf_append, seenOf_events, hbefore, List.append_assoc,
      ← List.append_assoc (r.faced.take 1), ← List.drop_one, List.take_append_drop]
  rwa [hseen, cut, List.prefix_append_right_inj, List.prefix_append_right_inj] at hsight

/-- The account holds if more happens afterwards. -/
theorem Happens.front {after : List Event} (h : r.Happens tokens events)
    (hsight : seenOf (events ++ after) <+: tokens) : r.Happens tokens (events ++ after) := by
  obtain ⟨cut, starts, passes, stops, front, back, hevents, hfront, -⟩ := h
  have hmore : events ++ after = front ++ (r.events ++ (back ++ after)) := by
    rw [hevents, List.append_assoc, List.append_assoc]
  exact .of_seen cut starts passes stops hmore hfront hsight

/-- More tokens have been taken before. -/
def behindTokens (us : List Token) (r : Recovery) : Recovery := { r with taken := us ++ r.taken }

theorem Starts.behindTokens (h : r.Starts) (us : List Token) : (r.behindTokens us).Starts := by
  obtain ⟨error, taken, skipped, ahead, behind⟩ := r
  cases error with
  | numberOutOfRange number =>
    show (us ++ taken).getLast? = some number
    have hlast : taken.getLast? = some number := h
    rw [List.getLast?_append, hlast]
    rfl
  | unexpectedToken => exact h
  | unexpectedInExpression => exact h
  | unclosedParenthesis => exact h
  | trailingInput => exact h

/-- The account holds behind tokens that have been taken before. -/
theorem Happens.later {t : Token} {us : List Token} {before : List Event}
    (h : r.Happens tokens (.sighted t :: events)) (hbefore : seenOf before = us ++ [t])
    (hsight : seenOf (before ++ events) <+: us ++ tokens) :
    (r.behindTokens us).Happens (us ++ tokens) (before ++ events) := by
  obtain ⟨cut, starts, passes, stops, front, back, hevents, hfront, -⟩ := h
  have hcut : us ++ tokens =
      (r.behindTokens us).taken ++ ((r.behindTokens us).faced ++ r.behind) := by
    rw [cut]
    exact (List.append_assoc us r.taken _).symm
  cases front with
  | nil =>
    -- at least the token at which the error is found has come into sight
    have hface : r.faced.take 1 ≠ [] := by simp [faced]
    exact absurd (List.append_eq_nil_iff.1 hfront.symm).2 hface
  | cons event front =>
    obtain ⟨rfl, hlater⟩ := List.cons.inj hevents
    have hmore : before ++ events = (before ++ front) ++ ((r.behindTokens us).events ++ back) := by
      rw [hlater]
      exact (List.append_assoc before front _).symm
    refine .of_seen hcut (starts.behindTokens us) passes stops hmore ?_ hsight
    rw [seenOf_append, hbefore, List.append_assoc]
    exact (congrArg (us ++ ·) hfront).trans (List.append_assoc us r.taken _).symm

end Recovery

/-! ## §2. The accounts of a course. -/

/-- What a log of events tells of parsing. -/
def parsingRecords (events : List Event) : List LogRecord :=
  (events.filterMap Event.record?).filter fun record => record.stage == .parsing

@[simp] theorem parsingRecords_append (before after : List Event) :
    parsingRecords (before ++ after) = parsingRecords before ++ parsingRecords after := by
  simp [parsingRecords]

/-- Tokens that come into sight are no part of parsing. -/
@[simp] theorem parsingRecords_map_sighted (ts : List Token) :
    parsingRecords (ts.map .sighted) = [] := by
  induction ts with
  | nil => rfl
  | cons t ts ih => exact ih

theorem errorsOf_map_sighted (ts : List Token) : errorsOf (ts.map .sighted) = [] := by
  induction ts with
  | nil => rfl
  | cons t ts ih => exact ih

theorem Recovery.parsingRecords_events (r : Recovery) : parsingRecords r.events = r.records := by
  show parsingRecords ([r.error.event] ++ (r.faced.tail.map .sighted ++ [_])) = r.records
  rw [parsingRecords_append, parsingRecords_append, parsingRecords_map_sighted, List.nil_append]
  obtain ⟨error, taken, skipped, ahead, behind⟩ := r
  cases error <;> rfl

theorem Recovery.errorsOf_events (r : Recovery) : errorsOf r.events = [r.error] := by
  show errorsOf ([r.error.event] ++ (r.faced.tail.map .sighted ++ [_])) = [r.error]
  rw [errorsOf_append, errorsOf_append, errorsOf_map_sighted, List.nil_append]
  cases r.error <;> rfl

/-- One account is made for each error, in order. -/
structure Accounts (tokens : List Token) (events : List Event) (rs : List Recovery) : Prop where
  errors : rs.map Recovery.error = errorsOf events
  records : parsingRecords events = rs.flatMap Recovery.records
  happen : ∀ r ∈ rs, r.Happens tokens events

theorem cons_tail_append_endOfInput (size : Nat) (rest : List Token) :
    lookAhead size rest :: (rest ++ [Token.endOfInput size]).tail =
      rest ++ [.endOfInput size] := by
  cases rest with
  | nil => rfl
  | cons t rest => rfl

/-- The first token faced is the one ahead when skipping starts. -/
theorem Skips.head?_eq {resumes : TokenKind → Bool} {n : Nat} {ts skipped rest : List Token}
    {events : List Event} (h : Skips size resumes n ts skipped rest events) :
    (skipped ++ [lookAhead size rest]).head? = some (lookAhead size ts) := by
  obtain ⟨pulled, hpulled, -⟩ := h.events
  rw [← hpulled]
  rfl

/-- The account of an error behind the tokens `us`, with the first of the tokens `ts` ahead. -/
theorem Skips.accounts {error : SyntaxError} {ts skipped rest : List Token}
    {events : List Event} (h : Skips size error.resumes 0 ts skipped rest events)
    (us : List Token) (ht : ∀ t ∈ ts, t.kind ≠ .endOfInput)
    (hstarts : ∀ behind, Recovery.Starts ⟨error, us, skipped, lookAhead size rest, behind⟩) :
    ∃ rs, Accounts (us ++ (ts ++ [.endOfInput size]))
      ((us ++ [lookAhead size ts]).map .sighted ++ error.event :: events) rs := by
  obtain ⟨htokens, hpasses, hstops, pulled, hpulled, hevents⟩ := h
  let behind := (rest ++ [Token.endOfInput size]).tail
  let r : Recovery := ⟨error, us, skipped, lookAhead size rest, behind⟩
  have hfaced : r.faced = lookAhead size ts :: pulled := hpulled.symm
  have hall : error.event :: events = r.events := by
    rw [hevents, Nat.zero_add, Recovery.events, hfaced]
    rfl
  have hcut : ts ++ [.endOfInput size] = r.faced ++ r.behind := by
    rw [htokens, List.append_assoc, ← cons_tail_append_endOfInput size rest]
    exact List.append_cons skipped _ _
  have hskipped : ∀ t ∈ r.skipped, t.kind ∉ error.resumptions := by
    intro t hmem
    have hkind : t.kind ≠ .endOfInput := ht t (htokens ▸ List.mem_append_left rest hmem)
    rw [SyntaxError.mem_resumptions_iff, hpasses t hmem]
    simp [hkind]
  have hahead : r.ahead.kind ∈ error.resumptions := by
    rw [SyntaxError.mem_resumptions_iff]
    cases rest with
    | nil => exact .inr rfl
    | cons t rest => exact .inl (hstops t rfl)
  rw [hall]
  refine ⟨[r], ?_, ?_, ?_⟩
  · rw [errorsOf_append, errorsOf_map_sighted, r.errorsOf_events]
    rfl
  · rw [parsingRecords_append, parsingRecords_map_sighted, r.parsingRecords_events,
      List.flatMap_singleton]
    rfl
  · rw [List.forall_mem_singleton]
    refine ⟨congrArg (us ++ ·) hcut, hstarts behind, hskipped, hahead,
      (us ++ [lookAhead size ts]).map .sighted, [], ?_, ?_, List.nil_prefix⟩
    · rw [List.append_nil]
    · rw [seenOf_map_sighted, hfaced]
      rfl

theorem Course.accounts {ts rest : List Token} {events : List Event}
    (h : Course size ts rest events) (ht : ∀ t ∈ ts, t.kind ≠ .endOfInput) :
    ∃ rs, Accounts (ts ++ [.endOfInput size]) (.sighted (lookAhead size ts) :: events) rs := by
  -- what is left out is accounted for where it is lost, and of two courses in a row the accounts
  -- of the second are told from behind the tokens of the first
  induction h with
  | stay ts => exact ⟨[], rfl, rfl, List.forall_mem_nil _⟩
  | take t ts => exact ⟨[], rfl, rfl, List.forall_mem_nil _⟩
  | @lose error ts skipped rest events hahead hskips =>
    apply hskips.accounts [] ht
    intro behind
    cases hahead with
    | header => exact hskips.head?_eq
    | operand => exact hskips.head?_eq
    | parenthesis => exact hskips.head?_eq
  | @loseNumber t ts skipped rest events hskips =>
    exact hskips.accounts [t] (fun u hu => ht u (List.mem_cons_of_mem t hu))
      (fun behind => rfl)
  | @join ts mid rest before after first second ihf ihs =>
    obtain ⟨us, rfl, hus⟩ := first.seen
    obtain ⟨ws, hws, hseen⟩ := (first.join second).seen
    have hsight : seenOf ((.sighted (lookAhead size (us ++ mid)) :: before) ++ after) <+:
        us ++ (mid ++ [.endOfInput size]) := by
      rw [List.cons_append, seenOf_sighted, hseen, ← List.append_assoc, hws, List.append_assoc,
        List.prefix_append_right_inj, ← cons_tail_append_endOfInput size rest]
      exact List.prefix_append [_] _
    obtain ⟨rs, herrors, hrecords, hhappen⟩ := ihf ht
    obtain ⟨rs', herrors', hrecords', hhappen'⟩ :=
      ihs (fun t hmem => ht t (List.mem_append_right us hmem))
    refine ⟨rs ++ rs'.map (Recovery.behindTokens us), ?_, ?_, ?_⟩
    · rw [List.map_append, List.map_map, herrors]
      show _ ++ rs'.map Recovery.error = _
      rw [herrors']
      exact (errorsOf_append (.sighted _ :: before) after).symm
    · rw [List.flatMap_append, List.flatMap_map, ← hrecords]
      show _ = _ ++ rs'.flatMap Recovery.records
      rw [← hrecords']
      exact parsingRecords_append (.sighted _ :: before) after
    · rw [List.append_assoc]
      intro r hmem
      rcases List.mem_append.1 hmem with hr | hr
      · have hhere := hhappen r hr
        rw [List.append_assoc] at hhere
        exact hhere.front hsight
      · obtain ⟨q, hq, rfl⟩ := List.mem_map.1 hr
        have hbefore : seenOf (.sighted (lookAhead size (us ++ mid)) :: before) =
            us ++ [lookAhead size mid] := hus
        exact (hhappen' q hq).later hbefore hsight

/-! ## §3. Sources. -/

/-- The errors of the program itself are those of its reading. -/
theorem errorsWithin_parse (source : String) :
    (parse source).errorsWithin =
      errorsOf (parseUnit (sourceSize source) (tokens source)).journal.events := by
  have hwithin : ∀ error ∈ errorsOf (parseUnit (sourceSize source) (tokens source)).journal.events,
      (!error.isTrailing) = true := by
    intro error herror
    simp [isTrailing_of_mem_unit herror]
  have hbehind : ∀ left : List Token,
      (errorsOf (trailing left).events).filter (fun error => !error.isTrailing) = [] := by
    intro left
    cases left <;> rfl
  rw [Parse.errorsWithin, errors_parse, List.filter_append, List.filter_eq_self.2 hwithin, hbehind,
    List.append_nil]

/-- What is logged of parsing a source. -/
def Parse.parsingRecords (p : Parse) : List LogRecord :=
  p.journal.records.filter fun record => record.stage == .parsing

/-- **BEHIND AN ERROR READING RESUMES AT THE NEXT TOKEN THAT LETS IT.**  There is one account
for each error of a source except the one of tokens behind the program, in the same order, and
the records of parsing are those of the accounts, one after the other.  Each account holds of
the tokens of the source and of what happens as they are read: from the token that the error is
about on, or behind a number that is out of range, tokens are skipped up to the first of a kind
at which reading resumes, and reading goes on with that one ahead.  So nothing is logged of
parsing a source that has no error but the one of tokens behind the program. -/
theorem reading_resumes_at_next_mark (source : String) :
    ∃ rs : List Recovery,
      rs.map Recovery.error = (parse source).errorsWithin ∧
        (parse source).parsingRecords = rs.flatMap Recovery.records ∧
        (∀ r ∈ rs, r.Happens (scan source) (parse source).journal.events) ∧
        ((parse source).errorsWithin = [] → (parse source).parsingRecords = []) := by
  obtain ⟨rs, herrors, hrecords, hhappen⟩ :=
    (readsUnit_parseUnit (sourceSize source) (tokens source)).course.accounts
      (fun t => kind_ne_endOfInput_of_mem_tokensFrom)
  have hevents : (parse source).journal.events =
      .sighted (lookAhead (sourceSize source) (tokens source)) ::
          (parseUnit (sourceSize source) (tokens source)).journal.events ++
        (trailing (parseUnit (sourceSize source) (tokens source)).rest).events := by
    show Journal.events (.entry _ (.join _ _)) = _
    rw [Journal.events_entry, Journal.events_join]
    rfl
  have hwithin : rs.map Recovery.error = (parse source).errorsWithin := by
    rw [errorsWithin_parse, herrors]
    rfl
  have hlogged : (parse source).parsingRecords = rs.flatMap Recovery.records := by
    have htrailing : ∀ left : List Token, parsingRecords (trailing left).events = [] := by
      intro left
      cases left <;> rfl
    show parsingRecords (parse source).journal.events = _
    rw [hevents, parsingRecords_append, htrailing, List.append_nil, hrecords]
  refine ⟨rs, hwithin, hlogged, ?_, ?_⟩
  · intro r hr
    have hsight : seenOf (parse source).journal.events <+: scan source := seen_in_order source
    rw [hevents] at hsight ⊢
    exact (hhappen r hr).front hsight
  · intro hnone
    have hempty : rs = [] := List.map_eq_nil_iff.1 (hwithin.trans hnone)
    rw [hlogged, hempty]
    rfl

/-- In `(2 3 # + 99999999999 x) / 4` the number is taken and `x` is skipped; in `1 ) 2` nothing
is. -/
theorem reading_resumes_at_next_mark_number :
    (∃ r : Recovery, r.error = .numberOutOfRange ⟨.number, "99999999999", ⟨9, 11⟩⟩ ∧
        r.Happens (scan "(2 3 # + 99999999999 x) / 4")
          (parse "(2 3 # + 99999999999 x) / 4").journal.events) ∧
      (parse "1 ) 2").parsingRecords = [] := by
  obtain ⟨rs, herrors, -, hhappen, -⟩ := reading_resumes_at_next_mark "(2 3 # + 99999999999 x) / 4"
  obtain ⟨-, -, -, -, hnothing⟩ := reading_resumes_at_next_mark "1 ) 2"
  have hmem : .numberOutOfRange ⟨.number, "99999999999", ⟨9, 11⟩⟩ ∈ rs.map Recovery.error := by
    rw [herrors]
    decide +kernel
  obtain ⟨r, hr, herror⟩ := List.mem_map.1 hmem
  exact ⟨⟨r, herror, hhappen r hr⟩, hnothing (by decide +kernel)⟩

end Calculator
