/-
  Calculator.Proofs.Reading.Program
  ─────────────────────────────────
  **WHAT READING A PROGRAM CAN DO.**

  Declarations (`ReadsHeader`) and whole programs (`ReadsUnit`) are read by rules of
  the same form as expressions.  Of all that happens meanwhile only the errors are
  told in the end (`errorsOf`).

  Main statements:
    * `readsHeader_parseDeclared`, `readsUnit_parseUnit` — whatever is read follows
      the rules;
    * `ReadsHeader.parseDeclared_eq`, `ReadsUnit.parseUnit_eq` — the rules allow
      nothing else;
    * `errors_parse` — the errors of a source.
-/
import Calculator.Program.Parse
import Calculator.Proofs.Reading

namespace Calculator

variable {size : Nat}

/-! ## §1. Declarations. -/

/-- In a source of `size` bytes the declared variables and their colon are read off
the tokens `ts` as `value`, `rest` is left, and meanwhile `events` happen. -/
inductive ReadsHeader (size : Nat) :
    List Token → Except SyntaxError (List Declaration) → List Token → List Event → Prop where
  /-- The last name, with the colon behind it. -/
  | last {name mark : Token} {ts : List Token} (kind : name.kind = .identifier)
      (colon : mark.kind = .colon) :
      ReadsHeader size (name :: mark :: ts) (.ok [⟨name.text, name.span⟩]) ts
        [.sighted mark, .sighted (lookAhead size ts)]
  /-- A name with a comma behind it, and the names behind that. -/
  | more {name mark : Token} {ts rest : List Token}
      {value : Except SyntaxError (List Declaration)} {events : List Event}
      (kind : name.kind = .identifier) (comma : mark.kind = .comma)
      (later : ReadsHeader size ts value rest events) :
      ReadsHeader size (name :: mark :: ts) (value.map (⟨name.text, name.span⟩ :: ·)) rest
        (.sighted mark :: .sighted (lookAhead size ts) :: events)
  /-- No name where one must stand. -/
  | noName {ts : List Token} (kind : (lookAhead size ts).kind ≠ .identifier) :
      ReadsHeader size ts (.error (.unexpectedToken (lookAhead size ts) .identifier)) ts []
  /-- A name with neither a comma nor a colon behind it. -/
  | noMark {name : Token} {ts : List Token} (kind : name.kind = .identifier)
      (comma : (lookAhead size ts).kind ≠ .comma) (colon : (lookAhead size ts).kind ≠ .colon) :
      ReadsHeader size (name :: ts) (.error (.unexpectedToken (lookAhead size ts) .colon)) ts
        [.sighted (lookAhead size ts)]

/-- Where no name stands, nothing is read. -/
theorem parseDeclared_of_noName (size : Nat) (ts : List Token)
    (hn : (lookAhead size ts).kind ≠ .identifier) :
    ∃ h, parseDeclared size ts =
      ⟨.error (.unexpectedToken (lookAhead size ts) .identifier), ts, .empty, h⟩ := by
  cases ts with
  | nil => exact ⟨_, rfl⟩
  | cons name rest =>
    rw [lookAhead_cons] at hn ⊢
    -- what is behind the name decides how far the recursion would go
    cases rest with
    | nil => exact ⟨_, if_neg hn⟩
    | cons mark rest => exact ⟨_, if_neg hn⟩

/-- Behind a name without a mark nothing is read. -/
theorem parseDeclared_of_noMark (size : Nat) {name : Token} (ts : List Token)
    (hn : name.kind = .identifier) (hm : (lookAhead size ts).kind ≠ .comma)
    (hc : (lookAhead size ts).kind ≠ .colon) :
    ∃ h, parseDeclared size (name :: ts) =
      ⟨.error (.unexpectedToken (lookAhead size ts) .colon), ts,
        .entry (.sighted (lookAhead size ts)) .empty, h⟩ := by
  cases ts with
  | nil => exact ⟨_, if_pos hn⟩
  | cons mark rest =>
    rw [lookAhead_cons] at hm hc ⊢
    exact ⟨_, (if_pos hn).trans ((if_neg hm).trans (if_neg hc))⟩

/-- A colon ends the declaration. -/
theorem parseDeclared_of_colon (size : Nat) {name mark : Token} (rest : List Token)
    (hn : name.kind = .identifier) (hc : mark.kind = .colon) :
    ∃ h, parseDeclared size (name :: mark :: rest) =
      ⟨.ok [⟨name.text, name.span⟩], rest,
        .entry (.sighted mark) (.entry (.sighted (lookAhead size rest)) .empty), h⟩ := by
  have hm : mark.kind ≠ .comma := by
    rw [hc]
    decide
  exact ⟨_, (if_pos hn).trans ((if_neg hm).trans (if_pos hc))⟩

/-- A comma leads to more names. -/
theorem parseDeclared_of_comma (size : Nat) {name mark : Token} (rest : List Token)
    (hn : name.kind = .identifier) (hm : mark.kind = .comma) :
    ∃ h, parseDeclared size (name :: mark :: rest) =
      ⟨(parseDeclared size rest).value.map (⟨name.text, name.span⟩ :: ·),
        (parseDeclared size rest).rest,
        .entry (.sighted mark)
          (.entry (.sighted (lookAhead size rest)) (parseDeclared size rest).journal), h⟩ :=
  ⟨_, (if_pos hn).trans (if_pos hm)⟩

/-- What is read of a declaration follows the rules. -/
theorem readsHeader_parseDeclared (size : Nat) (ts : List Token) :
    ReadsHeader size ts (parseDeclared size ts).value (parseDeclared size ts).rest
      (parseDeclared size ts).journal.events := by
  induction ts using parseDeclared.induct size with
  | case1 => exact .noName (by simp)
  | case2 name hn =>
    obtain ⟨_, heq⟩ := parseDeclared_of_noMark size [] hn (by simp) (by simp)
    rw [heq]
    exact .noMark hn (by simp) (by simp)
  | case3 name hn mark rest hm ih =>
    obtain ⟨_, heq⟩ := parseDeclared_of_comma size rest hn hm
    rw [heq]
    exact .more hn hm ih
  | case4 name hn mark rest hm hc =>
    obtain ⟨_, heq⟩ := parseDeclared_of_colon size rest hn hc
    rw [heq]
    exact .last hn hc
  | case5 name hn mark rest hm hc =>
    obtain ⟨_, heq⟩ := parseDeclared_of_noMark size (mark :: rest) hn hm hc
    rw [heq]
    exact .noMark hn hm hc
  | case6 name rest hn =>
    obtain ⟨_, heq⟩ := parseDeclared_of_noName size (name :: rest) hn
    rw [heq]
    exact .noName hn

/-- What the rules say of a declaration is what is read of it. -/
theorem ReadsHeader.parseDeclared_eq {ts rest : List Token}
    {value : Except SyntaxError (List Declaration)} {events : List Event}
    (h : ReadsHeader size ts value rest events) :
    (parseDeclared size ts).value = value ∧ (parseDeclared size ts).rest = rest ∧
      (parseDeclared size ts).journal.events = events := by
  induction h with
  | @last name mark rest hn hc =>
    obtain ⟨_, heq⟩ := parseDeclared_of_colon size rest hn hc
    rw [heq]
    exact ⟨rfl, rfl, rfl⟩
  | @more name mark ts rest value events hn hm _ ih =>
    obtain ⟨rfl, rfl, rfl⟩ := ih
    obtain ⟨_, heq⟩ := parseDeclared_of_comma size ts hn hm
    rw [heq]
    exact ⟨rfl, rfl, rfl⟩
  | noName hn =>
    obtain ⟨_, heq⟩ := parseDeclared_of_noName size _ hn
    rw [heq]
    exact ⟨rfl, rfl, rfl⟩
  | noMark hn hm hc =>
    obtain ⟨_, heq⟩ := parseDeclared_of_noMark size _ hn hm hc
    rw [heq]
    exact ⟨rfl, rfl, rfl⟩

/-! ## §2. Programs. -/

/-- In a source of `size` bytes `program` is read off the tokens `ts`, if it is not
none, `rest` is left, and meanwhile `events` happen. -/
inductive ReadsUnit (size : Nat) :
    List Token → Option Program → List Token → List Event → Prop where
  /-- A sum alone. -/
  | bare {ts rest : List Token} {body : Expr} {events : List Event}
      (kind : (lookAhead size ts).kind ≠ .withKeyword)
      (sum : Reads size (.chain .sum) ts body rest events) :
      ReadsUnit size ts (Program.ofExpr? body) rest events
  /-- A declaration with a sum behind it. -/
  | declaring {opening : Token} {ts mid rest : List Token} {declared : List Declaration}
      {body : Expr} {before after : List Event} (kind : opening.kind = .withKeyword)
      (header : ReadsHeader size ts (.ok declared) mid before)
      (sum : Reads size (.chain .sum) mid body rest after) :
      ReadsUnit size (opening :: ts) (some (.declaring opening.span declared body)) rest
        (.sighted (lookAhead size ts) :: (before ++ after))
  /-- A declaration with an error; everything behind it is left out. -/
  | abandoned {opening : Token} {ts mid : List Token} {error : SyntaxError}
      {before : List Event} (kind : opening.kind = .withKeyword)
      (header : ReadsHeader size ts (.error error) mid before) :
      ReadsUnit size (opening :: ts) none (skipUntil size (fun _ => false) 0 mid).rest
        (.sighted (lookAhead size ts) :: (before ++ .abandoned error ::
          (skipUntil size (fun _ => false) 0 mid).journal.events))

/-- Behind the variables that a source declares a sum is read. -/
theorem parseUnit_of_declared {t : Token} {ts : List Token} {declared : List Declaration}
    (hw : t.kind = .withKeyword) (hv : (parseDeclared size ts).value = .ok declared) :
    (parseUnit size (t :: ts)).value = some (.declaring t.span declared
        (parseChain size .sum (parseDeclared size ts).rest).value) ∧
      (parseUnit size (t :: ts)).rest = (parseChain size .sum (parseDeclared size ts).rest).rest ∧
      (parseUnit size (t :: ts)).journal.events = .sighted (lookAhead size ts) ::
        ((parseDeclared size ts).journal.events ++
          (parseChain size .sum (parseDeclared size ts).rest).journal.events) := by
  simp only [parseUnit, if_pos hw, Journal.events_entry]
  unfold parseDeclaring
  dsimp only
  split
  · next names hnames =>
    cases hv.symm.trans hnames
    simp only [Journal.events_join, and_self]
  · next error herror => cases hv.symm.trans herror

/-- Behind an error of a declaration everything is left out. -/
theorem parseUnit_of_abandoned {t : Token} {ts : List Token} {error : SyntaxError}
    (hw : t.kind = .withKeyword) (hv : (parseDeclared size ts).value = .error error) :
    (parseUnit size (t :: ts)).value = none ∧
      (parseUnit size (t :: ts)).rest =
        (skipUntil size (fun _ => false) 0 (parseDeclared size ts).rest).rest ∧
      (parseUnit size (t :: ts)).journal.events = .sighted (lookAhead size ts) ::
        ((parseDeclared size ts).journal.events ++ .abandoned error ::
          (skipUntil size (fun _ => false) 0 (parseDeclared size ts).rest).journal.events) := by
  simp only [parseUnit, if_pos hw, Journal.events_entry]
  unfold parseDeclaring
  dsimp only
  split
  · next names hnames => cases hv.symm.trans hnames
  · next err herror =>
    cases hv.symm.trans herror
    simp only [Journal.events_join, Journal.events_entry, and_self]

/-- What is read of a source follows the rules. -/
theorem readsUnit_parseUnit (size : Nat) (ts : List Token) :
    ReadsUnit size ts (parseUnit size ts).value (parseUnit size ts).rest
      (parseUnit size ts).journal.events := by
  cases ts with
  | nil => exact .bare (by simp) (reads_run size (.chain .sum) [])
  | cons t ts =>
    by_cases hw : t.kind = .withKeyword
    · have hh := readsHeader_parseDeclared size ts
      cases hv : (parseDeclared size ts).value with
      | ok declared =>
        obtain ⟨hvalue, hrest, hevents⟩ := parseUnit_of_declared hw hv
        rw [hv] at hh
        rw [hvalue, hrest, hevents]
        exact .declaring hw hh (reads_run size (.chain .sum) _)
      | error error =>
        obtain ⟨hvalue, hrest, hevents⟩ := parseUnit_of_abandoned hw hv
        rw [hv] at hh
        rw [hvalue, hrest, hevents]
        exact .abandoned hw hh
    · simp only [parseUnit, if_neg hw]
      exact .bare hw (reads_run size (.chain .sum) _)

/-- What the rules say of a source is what is read of it. -/
theorem ReadsUnit.parseUnit_eq {ts rest : List Token} {program : Option Program}
    {events : List Event} (h : ReadsUnit size ts program rest events) :
    (parseUnit size ts).value = program ∧ (parseUnit size ts).rest = rest ∧
      (parseUnit size ts).journal.events = events := by
  cases h with
  | bare hw hs =>
    obtain ⟨rfl, rfl, rfl⟩ := hs.run_eq
    cases ts with
    | nil => exact ⟨rfl, rfl, rfl⟩
    | cons t rest =>
      rw [lookAhead_cons] at hw
      simp only [parseUnit, if_neg hw]
      exact ⟨rfl, rfl, rfl⟩
  | declaring hw hh hs =>
    obtain ⟨hv, rfl, rfl⟩ := hh.parseDeclared_eq
    obtain ⟨rfl, rfl, rfl⟩ := hs.run_eq
    exact parseUnit_of_declared hw hv
  | abandoned hw hh =>
    obtain ⟨hv, rfl, rfl⟩ := hh.parseDeclared_eq
    exact parseUnit_of_abandoned hw hv

/-! ## §3. Errors among the events. -/

/-- The errors that the events tell of, in order. -/
def errorsOf (events : List Event) : List SyntaxError := events.filterMap Event.error?

@[simp] theorem errorsOf_nil : errorsOf [] = [] := rfl

@[simp] theorem errorsOf_append (before after : List Event) :
    errorsOf (before ++ after) = errorsOf before ++ errorsOf after :=
  List.filterMap_append

@[simp] theorem errorsOf_sighted (t : Token) (events : List Event) :
    errorsOf (.sighted t :: events) = errorsOf events := rfl

@[simp] theorem errorsOf_abandoned (error : SyntaxError) (events : List Event) :
    errorsOf (.abandoned error :: events) = error :: errorsOf events := rfl

/-- Leaving tokens out is no error. -/
@[simp] theorem errorsOf_skipUntil (resumes : TokenKind → Bool) (skipped : Nat)
    (ts : List Token) : errorsOf (skipUntil size resumes skipped ts).journal.events = [] := by
  induction ts generalizing skipped with
  | nil => rfl
  | cons t rest ih =>
    unfold skipUntil
    split
    · rfl
    · simp only [Journal.events_entry, errorsOf_sighted, ih]

/-- If no kind of token lets reading resume, nothing is left. -/
theorem rest_skipUntil_never (skipped : Nat) (ts : List Token) :
    (skipUntil size (fun _ => false) skipped ts).rest = [] := by
  induction ts generalizing skipped with
  | nil => rfl
  | cons t rest ih =>
    unfold skipUntil
    exact ih (skipped + 1)

/-- An unreadable operand is one error. -/
@[simp] theorem errorsOf_recover (error : SyntaxError) (ts : List Token) :
    errorsOf (recover size error ts).journal.events = [error] := by
  show error :: errorsOf (skipUntil size _ 0 ts).journal.events = [error]
  rw [errorsOf_skipUntil]

/-- In the declaration itself no error happens; the one that gives it up is its
value. -/
theorem ReadsHeader.errorsOf_eq {ts rest : List Token}
    {value : Except SyntaxError (List Declaration)} {events : List Event}
    (h : ReadsHeader size ts value rest events) : errorsOf events = [] := by
  induction h with
  | last => rfl
  | more _ _ _ ih => simpa using ih
  | noName => rfl
  | noMark => rfl

/-- A declaration is given up because the token ahead is not of the kind expected. -/
theorem ReadsHeader.exists_unexpectedToken {ts rest : List Token}
    {value : Except SyntaxError (List Declaration)} {events : List Event}
    (h : ReadsHeader size ts value rest events) {error : SyntaxError}
    (hv : value = .error error) : ∃ kind, error = .unexpectedToken (lookAhead size rest) kind := by
  induction h generalizing error with
  | last => cases hv
  | @more name mark ts rest value events _ _ _ ih =>
    cases value with
    | error later =>
      cases hv
      exact ih rfl
    | ok declared => cases hv
  | noName =>
    cases hv
    exact ⟨_, rfl⟩
  | noMark =>
    cases hv
    exact ⟨_, rfl⟩

/-! ## §4. Sources. -/

/-- The size of a source in bytes. -/
def sourceSize (source : String) : Nat := Text.width source.toList

/-- The errors of a source are those of its program and the one of the tokens that
are left behind it. -/
theorem errors_parse (source : String) :
    (parse source).errors =
      errorsOf (parseUnit (sourceSize source) (tokens source)).journal.events ++
        errorsOf (trailing (parseUnit (sourceSize source) (tokens source)).rest).events := by
  show Journal.errors (.entry _ (.join _ _)) = _
  rw [Journal.errors_sighted, Journal.errors_join]
  rfl

/-- Nothing is left behind a program, or there is an error. -/
theorem errorsOf_trailing_eq_nil_iff {ts : List Token} :
    errorsOf (trailing ts).events = [] ↔ ts = [] := by
  cases ts with
  | nil => simp [trailing]
  | cons t rest => simp [trailing, errorsOf, Event.error?]

end Calculator
