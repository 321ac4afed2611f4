/-
  Calculator.Runtime
  ──────────────────
  **THE WORLD OF A PROGRAM.**

  A program knows of the world only that values can be asked for and results can be
  told.  Each of the two may fail, and may change the world, in any way at all.
-/
import Calculator.RuntimeError

namespace Calculator

/-- States of a world that values are asked of and results are told to. -/
class Runtime (σ : Type) where
  /-- Asks for the value of a variable. -/
  ask : String → σ → Except RuntimeError Int32 × σ
  /-- Tells a result. -/
  tell : Int32 → σ → Except RuntimeError Unit × σ

end Calculator
