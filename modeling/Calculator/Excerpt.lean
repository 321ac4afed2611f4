/-
  Calculator.Excerpt
  ──────────────────
  **THE LINES AROUND A PLACE.**

  A report shows the part of the source that it is about, with some lines before
  and after it.  The source is walked through once, byte by byte: up to the span
  the walk remembers where the latest lines started, and behind the span it goes
  on to the end of the line and takes in the lines that are asked for.
-/
import Calculator.Span

namespace Calculator

/-- A part of a source. -/
structure Excerpt where
  bytes : List UInt8
  /-- Where the part starts. -/
  start : Nat
  /-- The line in which the part starts, counted from 0. -/
  line : Nat
  /-- The column in which the part starts, counted from 0. -/
  column : Nat
  /-- How many line ends were met on the way. -/
  lineCount : Nat
  deriving DecidableEq, Repr, Inhabited

namespace Excerpt

/-- What is shown: a span, and how many lines before and behind it. -/
structure Request where
  span : Span
  before : Nat
  after : Nat
  deriving DecidableEq, Repr, Inhabited

/-- The state of the walk. -/
structure Walk where
  /-- Where the walk has got to. -/
  offset : Nat
  /-- Where the line started that the walk is in. -/
  lineStart : Nat
  /-- The starts of the latest lines before the span, at most as many as are asked
  for. -/
  lineStarts : List Nat
  lineCount : Nat
  line : Nat
  column : Nat
  /-- Whether the last byte of the span has been passed. -/
  passed : Bool
  /-- Whether the line of the last byte has ended. -/
  closed : Bool
  /-- How many lines have ended after that one. -/
  linesAfter : Nat
  deriving DecidableEq, Repr, Inhabited

namespace Walk

/-- The walk before the first byte. -/
def atStart : Walk := ⟨0, 0, [], 0, 0, 0, false, false, 0⟩

/-- A line ends before the span: its start is remembered, and the one furthest back
is forgotten if there are too many. -/
def endLineBefore (r : Request) (w : Walk) : Walk :=
  let starts := w.lineStarts ++ [w.lineStart]
  if r.before < starts.length then
    { w with column := 0, line := w.line + 1, lineStarts := starts.tail }
  else { w with column := 0, lineStarts := starts }

/-- A line ends behind the span: first the line of the span itself, then the lines
after it. -/
def endLineBehind (w : Walk) : Walk :=
  if w.closed then { w with column := 0, linesAfter := w.linesAfter + 1 }
  else { w with column := 0, closed := true }

/-- Whether all lines that are asked for have been taken in. -/
def done (r : Request) (w : Walk) : Bool := r.after ≤ w.linesAfter

/-- Goes on to the next byte, unless the span is passed and nothing more is asked
for; `true` means that the walk is over. -/
def advance (r : Request) (w : Walk) : Bool × Walk :=
  if r.span.stop - 1 ≤ w.offset then
    (w.done r, { w with passed := true, offset := w.offset + 1 })
  else (false, { w with offset := w.offset + 1 })

/-- The last byte of a line end at the place of the walk. -/
def stepLineEnd (r : Request) (w : Walk) : Bool × Walk :=
  let w := { w with lineCount := w.lineCount + 1 }
  let next := w.offset + 1
  if w.offset < r.span.start then
    { w.endLineBefore r with lineStart := next }.advance r
  -- the last byte of an empty span is taken to be the one at its place
  else if r.span.start + (r.span.length - 1) ≤ w.offset ∧ w.passed then
    let w := w.endLineBehind
    if w.done r then (true, { w with offset := next })
    else { w with lineStart := next }.advance r
  else { w with lineStart := next }.advance r

/-- Any other byte at the place of the walk. -/
def stepByte (r : Request) (w : Walk) : Bool × Walk :=
  if w.offset < r.span.start then { w with column := w.column + 1 }.advance r
  else w.advance r

/-- The walk through the bytes; a carriage return and a line feed behind it are one
line end. -/
def through (r : Request) : List UInt8 → Walk → Walk
  | [], w => w
  | 13 :: 10 :: bytes, w =>
    match { w with offset := w.offset + 1 }.stepLineEnd r with
    | (true, w) => w
    | (false, w) => through r bytes w
  | b :: bytes, w =>
    match if b = 10 ∨ b = 13 then w.stepLineEnd r else w.stepByte r with
    | (true, w) => w
    | (false, w) => through r bytes w

end Walk

/-- Why there is no part to show. -/
inductive Fault where
  /-- The source is over before the span is. -/
  | outOfBounds
  deriving DecidableEq, Repr, Inhabited

/-- What is wrong with the span. -/
def Fault.message : Fault → String
  | outOfBounds => "The given offset is outside the bounds of its Source"

/-- The part of the source that is asked for. -/
def ofBytes (bytes : List UInt8) (r : Request) : Except Fault Excerpt :=
  let w := Walk.atStart.through r bytes
  if r.span.stop - 1 ≤ w.offset then
    let start := w.lineStarts.headD (if r.before = 0 then r.span.start else 0)
    .ok {
      bytes := (bytes.take w.offset).drop start
      start
      line := w.line
      column := if r.before = 0 then w.column else 0
      lineCount := w.lineCount }
  else .error .outOfBounds

end Excerpt
end Calculator
