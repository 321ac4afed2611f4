/-
  Calculator.Log
  ──────────────
  **LOG RECORDS.**

  What a log tells of the work on a source: every token that comes into sight,
  every error that reading recovers from, and how the check ends.  The records
  are read off the journal (`Event.record?`), so they come in the order of what
  happened.
-/
import Calculator.Program.Check
import Calculator.Program.Parse
import Calculator.Text.Quoted

namespace Calculator

/-- How much detail a record belongs to. -/
inductive LogLevel where
  | trace
  | debug
  deriving DecidableEq, Repr, Inhabited

/-- The part of the work that a record comes from. -/
inductive Stage where
  | scanning
  | parsing
  | checking
  deriving DecidableEq, Repr, Inhabited

/-- One line of a log. -/
structure LogRecord where
  level : LogLevel
  stage : Stage
  message : String
  deriving DecidableEq, Repr, Inhabited

/-- The record of an event; an error in an expression is told by the place where
reading resumes. -/
def Event.record? : Event → Option LogRecord
  | sighted token =>
    some ⟨.trace, .scanning, "scanned " ++ token.kind.code ++ " " ++ Text.quote token.text⟩
  | found _ => none
  | abandoned error =>
    some ⟨.debug, .parsing, "abandoning declaration header: " ++ error.message⟩
  | resumed skipped ahead =>
    some ⟨.debug, .parsing,
      "recovered after skipping " ++ Nat.repr skipped ++ " token(s), resuming at " ++
        ahead.describe⟩

/-- The records of reading a source. -/
def Journal.records (journal : Journal) : List LogRecord := journal.events.filterMap Event.record?

/-- The record of a check; without a program there is nothing to tell. -/
def checkRecords : Option Program → List LogRecord
  | none => []
  | some program =>
    [⟨.debug, .checking,
      "semantic check finished with " ++ Nat.repr program.problems.length ++ " error(s)"⟩]

/-- Whether a log of the detail `wanted` shows a record of the level. -/
def LogLevel.shows : LogLevel → LogLevel → Bool
  | trace, _ => true
  | debug, level => level == debug

/-- The records of reading a source and checking what was made of it, in the detail
that is wanted. -/
def logRecords (wanted : LogLevel) (source : String) : List LogRecord :=
  let p := parse source
  (p.journal.records ++ checkRecords p.program).filter fun record => wanted.shows record.level

@[simp] theorem Journal.records_join (j k : Journal) :
    (Journal.join j k).records = j.records ++ k.records := by
  simp [Journal.records]

end Calculator
