/-
  Calculator.Bindings
  ───────────────────
  **THE VALUES OF VARIABLES.**

  A name has the value that it was given last; other names keep theirs
  (`get?_set`).
-/

namespace Calculator

/-- The values given to names, the latest first. -/
structure Bindings where
  entries : List (String × Int32)
  deriving DecidableEq, Repr, Inhabited

namespace Bindings

/-- No name has a value. -/
def empty : Bindings := ⟨[]⟩

/-- The value of a name. -/
def get? (b : Bindings) (name : String) : Option Int32 := b.entries.lookup name

/-- Gives a value to a name. -/
def set (b : Bindings) (name : String) (value : Int32) : Bindings := ⟨(name, value) :: b.entries⟩

@[simp] theorem get?_empty (name : String) : empty.get? name = none := rfl

theorem get?_set (b : Bindings) (name other : String) (value : Int32) :
    (b.set name value).get? other = if other = name then some value else b.get? other := by
  by_cases h : other = name
  · simp [get?, set, h]
  · have hb : (other == name) = false := by simpa using h
    simp [get?, set, List.lookup_cons, h, hb]

end Bindings
end Calculator
