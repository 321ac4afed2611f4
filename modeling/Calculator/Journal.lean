/-
  Calculator.Journal
  ──────────────────
  **WHAT HAPPENS WHILE A SOURCE IS READ.**

  Reading a source leaves a journal: each token as it comes into sight, each
  error as it is found, and each place where reading resumes after one.  A
  journal stands for the list of its events (`events`).  The errors and the
  tokens are views of that list (`errors`, `seen`), and both take a joined
  journal apart (`errors_join`, `seen_join`).
-/
import Calculator.SyntaxError

namespace Calculator

/-- One thing that happens while a source is read. -/
inductive Event where
  /-- A token comes into sight. -/
  | sighted (token : Token)
  /-- An error is found in the expression or behind it. -/
  | found (error : SyntaxError)
  /-- An error is found in the declaration, which is given up. -/
  | abandoned (error : SyntaxError)
  /-- After an error, `skipped` tokens are left out, and reading resumes at `ahead`. -/
  | resumed (skipped : Nat) (ahead : Token)
  deriving DecidableEq, Repr, Inhabited

namespace Event

/-- The error that the event tells of. -/
def error? : Event → Option SyntaxError
  | found error => some error
  | abandoned error => some error
  | sighted _ => none
  | resumed _ _ => none

/-- The token that the event brings into sight. -/
def token? : Event → Option Token
  | sighted token => some token
  | found _ => none
  | abandoned _ => none
  | resumed _ _ => none

end Event

/-- What happened, in order.  Two journals are joined in one step, however long
they are, so that nested parts of a source can each keep their own. -/
inductive Journal where
  /-- Nothing happened. -/
  | empty
  /-- The event happened, then the rest. -/
  | entry (event : Event) (later : Journal)
  /-- The first journal, then the second. -/
  | join (first second : Journal)
  deriving DecidableEq, Repr, Inhabited

namespace Journal

/-- The events of the journal, with `later` behind them. -/
def followedBy : Journal → List Event → List Event
  | empty, later => later
  | entry event journal, later => event :: journal.followedBy later
  | join first second, later => first.followedBy (second.followedBy later)

/-- The events, in order. -/
def events (journal : Journal) : List Event := journal.followedBy []

/-- The errors, in the order in which they were found. -/
def errors (journal : Journal) : List SyntaxError := journal.events.filterMap Event.error?

/-- The tokens, in the order in which they came into sight. -/
def seen (journal : Journal) : List Token := journal.events.filterMap Event.token?

theorem followedBy_eq (j : Journal) (later : List Event) :
    j.followedBy later = j.events ++ later := by
  induction j generalizing later with
  | empty => rfl
  | entry event j ih => rw [followedBy, ih]; rfl
  | join j k ihj ihk =>
    show j.followedBy (k.followedBy later) = j.followedBy (k.followedBy []) ++ later
    rw [ihj, ihj, ihk, List.append_assoc]
    rfl

@[simp] theorem events_empty : events empty = [] := rfl

@[simp] theorem events_entry (e : Event) (j : Journal) : events (entry e j) = e :: events j := rfl

@[simp] theorem events_join (j k : Journal) : events (join j k) = events j ++ events k :=
  followedBy_eq j k.events

@[simp] theorem errors_empty : errors empty = [] := rfl

@[simp] theorem errors_join (j k : Journal) : errors (join j k) = errors j ++ errors k := by
  simp [errors]

@[simp] theorem errors_sighted (t : Token) (j : Journal) :
    errors (entry (.sighted t) j) = errors j := rfl

@[simp] theorem errors_found (e : SyntaxError) (j : Journal) :
    errors (entry (.found e) j) = e :: errors j := rfl

@[simp] theorem errors_abandoned (e : SyntaxError) (j : Journal) :
    errors (entry (.abandoned e) j) = e :: errors j := rfl

@[simp] theorem errors_resumed (n : Nat) (t : Token) (j : Journal) :
    errors (entry (.resumed n t) j) = errors j := rfl

@[simp] theorem seen_empty : seen empty = [] := rfl

@[simp] theorem seen_join (j k : Journal) : seen (join j k) = seen j ++ seen k := by
  simp [seen]

@[simp] theorem seen_sighted (t : Token) (j : Journal) :
    seen (entry (.sighted t) j) = t :: seen j := rfl

@[simp] theorem seen_found (e : SyntaxError) (j : Journal) :
    seen (entry (.found e) j) = seen j := rfl

@[simp] theorem seen_abandoned (e : SyntaxError) (j : Journal) :
    seen (entry (.abandoned e) j) = seen j := rfl

@[simp] theorem seen_resumed (n : Nat) (t : Token) (j : Journal) :
    seen (entry (.resumed n t) j) = seen j := rfl

end Journal
end Calculator
