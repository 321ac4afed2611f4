/-
  Calculator.Span
  ───────────────
  **BYTE RANGES OF A TEXT.**

  Positions in a source text are byte offsets into its UTF-8 form.  A `Span`
  is where something starts and how many bytes it takes; tokens, tree nodes
  and problem reports all carry one.

  Main statements: the hull of two spans starts at the smaller start and stops
  at the larger stop (`start_hull`, `stop_hull`), and a span between two
  character boundaries holds what stands between them (`slice?_middle`).
-/
import Calculator.Text.Utf8

namespace Calculator

/-- A range of bytes: the offset of the first one and how many there are. -/
structure Span where
  start : Nat
  length : Nat
  deriving DecidableEq, Repr, Inhabited

namespace Span

open Text (width dropBytes? takeBytes?)

/-! ## §1. Ends and hulls. -/

/-- The offset just behind the last byte. -/
def stop (s : Span) : Nat := s.start + s.length

/-- The range from `start` up to `stop`; empty if `stop` is not behind `start`. -/
def between (start stop : Nat) : Span := ⟨start, stop - start⟩

/-- A span without bytes. -/
def isEmpty (s : Span) : Bool := s.length == 0

/-- The smallest span that covers both `s` and `t`. -/
def hull (s t : Span) : Span := between (min s.start t.start) (max s.stop t.stop)

@[simp] theorem start_between (a b : Nat) : (between a b).start = a := rfl

theorem stop_between {a b : Nat} (h : a ≤ b) : (between a b).stop = b := by
  simp only [between, stop]; omega

theorem start_le_stop (s : Span) : s.start ≤ s.stop := Nat.le_add_right _ _

@[simp] theorem start_hull (s t : Span) : (s.hull t).start = min s.start t.start := rfl

@[simp] theorem stop_hull (s t : Span) : (s.hull t).stop = max s.stop t.stop := by
  have hs := s.start_le_stop
  exact stop_between (by omega)

/-- Two spans agree as soon as their ends do. -/
theorem ext_ends {s t : Span} (h₁ : s.start = t.start) (h₂ : s.stop = t.stop) : s = t := by
  cases s; cases t; simp only [stop] at *; subst h₁; congr 1; omega

/-! ## §2. The text under a span. -/

/-- The characters of `cs` in the range of `s`, if both ends are character
boundaries of `cs`. -/
def slice? (s : Span) (cs : List Char) : Option (List Char) :=
  (dropBytes? s.start cs).bind (takeBytes? s.length)

/-- The part of `source` under the span, if both its ends are character
boundaries. -/
def text? (s : Span) (source : String) : Option String :=
  (s.slice? source.toList).map String.ofList

/-- Between two character boundaries a span holds what stands between them. -/
theorem slice?_middle (before word after : List Char) :
    slice? ⟨width before, width word⟩ (before ++ (word ++ after)) = some word := by
  simp [slice?, Text.dropBytes?_append, Text.takeBytes?_append]

end Span
end Calculator
