/-
  Calculator.Proofs.Asking
  ────────────────────────
  **WHAT COMES OF ASKING FOR VARIABLES.**

  Asking for variables in order gives one answer after the other, a value or an error, up to
  and with the first error (`Runtime.answers`).  The answers depend on the runtime alone, and
  whatever asking does to a session is read off them: it fails with their error, the runtime
  is the one behind them, and each value among them goes to its variable.

  Main statements:
    * `Console.exchangeAll_answers` — on a console the answers are what it gives, one by one;
    * `Session.askAll_eq`           — what the answers make of a session;
    * `Bindings.get?_keep`          — a variable has the value of the latest answer that gave
      it one, or the value it had before.
-/
import Calculator.Proofs.Evaluation

namespace Calculator

/-! ## §1. Answers. -/

/-- What came of asking for the value of a variable. -/
structure Answer where
  name : String
  outcome : Except RuntimeError Int32

namespace Answer

/-- Why there is no value, if there is none. -/
def error? (a : Answer) : Option RuntimeError :=
  match a.outcome with
  | .error error => some error
  | .ok _ => none

/-- The value that the answer gives to the variable `name`. -/
def valueFor? (name : String) (a : Answer) : Option Int32 :=
  if a.name = name then a.outcome.toOption else none

theorem valueFor?_eq_some_iff {name : String} {value : Int32} {a : Answer} :
    a.valueFor? name = some value ↔ a = ⟨name, .ok value⟩ := by
  obtain ⟨other, outcome⟩ := a
  unfold valueFor?
  cases outcome with
  | error error => simp [Except.toOption]
  | ok v => simp [Except.toOption]

end Answer

/-- The value that the latest of the answers with a value for `name` gave to it. -/
def latest? (name : String) (answers : List Answer) : Option Int32 :=
  answers.reverse.findSome? (Answer.valueFor? name)

theorem latest?_append (name : String) (front later : List Answer) :
    latest? name (front ++ later) = (latest? name later).or (latest? name front) := by
  unfold latest?
  rw [List.reverse_append, List.findSome?_append]

theorem latest?_cons (name : String) (a : Answer) (later : List Answer) :
    latest? name (a :: later) = (latest? name later).or (a.valueFor? name) := by
  have hone : latest? name [a] = a.valueFor? name := by
    show [a].findSome? _ = _
    rw [List.findSome?_cons]
    cases a.valueFor? name <;> rfl
  rw [← hone, ← latest?_append]
  rfl

/-- What asking comes to: the first error among the answers, if there is one. -/
def allGiven (answers : List Answer) : Except RuntimeError Unit :=
  match answers.findSome? Answer.error? with
  | some error => .error error
  | none => .ok ()

namespace Runtime

variable {σ : Type} [Runtime σ]

/-- What is answered when variables are asked for in order: an answer for each of them, up to
and with the first that gets no value. -/
def answers : List String → σ → List Answer
  | [], _ => []
  | name :: later, c =>
    match ask name c with
    | (.error error, _) => [⟨name, .error error⟩]
    | (.ok value, d) => ⟨name, .ok value⟩ :: answers later d

/-- The state after variables have been asked for, whatever came of it. -/
def afterAsking (names : List String) (c : σ) : σ :=
  names.foldl (fun c name => (ask name c).2) c

variable {c d : σ} {name : String} {later : List String}

theorem answers_of_error {error : RuntimeError} (h : ask name c = (.error error, d)) :
    answers (name :: later) c = [⟨name, .error error⟩] := by
  rw [answers, h]

theorem answers_of_ok {value : Int32} (h : ask name c = (.ok value, d)) :
    answers (name :: later) c = ⟨name, .ok value⟩ :: answers later d := by
  rw [answers, h]

theorem afterAsking_cons (h : (ask name c).2 = d) :
    afterAsking (name :: later) c = afterAsking later d := by
  rw [afterAsking, List.foldl_cons, h, ← afterAsking]

/-- The variables that are answered for are the first ones. -/
theorem map_name_answers (names : List String) (c : σ) :
    (answers names c).map Answer.name = names.take (answers names c).length := by
  induction names generalizing c with
  | nil => rfl
  | cons name later ih =>
    rcases h : ask name c with ⟨error | value, d⟩
    · rw [answers_of_error h]
      rfl
    · rw [answers_of_ok h, List.map_cons, ih d]
      rfl

end Runtime

/-- The answers are what the console gives when it is used for nothing else, one by one. -/
theorem Console.exchangeAll_answers (names : List String) (c : Console) :
    (c.exchangeAll ((Runtime.answers names c).map fun a => .ask a.name)).map Prod.fst =
      (Runtime.answers names c).map fun a => a.outcome.map some := by
  induction names generalizing c with
  | nil => rfl
  | cons name later ih =>
    rcases h : Runtime.ask name c with ⟨error | value, d⟩
    · rw [Runtime.answers_of_error h]
      rw [runtime_ask] at h
      simp only [List.map_cons, List.map_nil, exchangeAll, exchange, h]
    · rw [Runtime.answers_of_ok h]
      rw [runtime_ask] at h
      simp only [List.map_cons, exchangeAll, exchange, h, ih d]

/-! ## §2. What the answers make of a session. -/

/-- The bindings after the answers: each value goes to its variable. -/
def Bindings.keep (b : Bindings) (answers : List Answer) : Bindings :=
  answers.foldl (fun b a =>
    match a.outcome with
    | .error _ => b
    | .ok value => b.set a.name value) b

theorem Bindings.keep_append (b : Bindings) (front later : List Answer) :
    b.keep (front ++ later) = (b.keep front).keep later := List.foldl_append

/-- A variable has the value of the latest answer that gave it one, or the value it had
before. -/
theorem Bindings.get?_keep (b : Bindings) (answers : List Answer) (name : String) :
    (b.keep answers).get? name = (latest? name answers).or (b.get? name) := by
  induction answers generalizing b with
  | nil => rfl
  | cons a later ih =>
    -- one answer binds its own variable, if it is a value
    have hone : (b.keep [a]).get? name = (a.valueFor? name).or (b.get? name) := by
      obtain ⟨other, error | value⟩ := a
      · show b.get? name = _
        unfold Answer.valueFor?
        split
        · rfl
        · rfl
      · show (b.set other value).get? name = _
        rw [get?_set]
        unfold Answer.valueFor?
        by_cases h : other = name
        · rw [if_pos h, if_pos h.symm]
          rfl
        · rw [if_neg h, if_neg (Ne.symm h)]
          rfl
    show ((b.keep [a]).keep later).get? name = _
    rw [ih, hone, latest?_cons, Option.or_assoc]

namespace Session

variable {σ : Type} [Runtime σ]

/-- The program that a call uses. -/
def Call.program : Call → Program
  | run program => program
  | evaluate program => program

/-- Asking for variables fails with the error of the answers, uses the console for nothing
else, and keeps the values of the answers. -/
theorem askAll_eq (declared : List Declaration) (s : Session σ) :
    s.askAll declared =
      (allGiven (Runtime.answers (declared.map Declaration.name) s.console),
        ⟨s.bindings.keep (Runtime.answers (declared.map Declaration.name) s.console),
          Runtime.afterAsking ((Runtime.answers (declared.map Declaration.name) s.console).map
            Answer.name) s.console⟩) := by
  induction declared generalizing s with
  | nil => rfl
  | cons d later ih =>
    rcases h : Runtime.ask d.name s.console with ⟨error | value, console⟩
    · have hconsole : Runtime.afterAsking [d.name] s.console = console := congrArg Prod.snd h
      simp only [askAll_of_ask_error h, List.map_cons, List.map_nil, Runtime.answers_of_error h,
        hconsole]
      rfl
    · have hconsole : ∀ names, Runtime.afterAsking (d.name :: names) s.console =
          Runtime.afterAsking names console :=
        fun _ => Runtime.afterAsking_cons (congrArg Prod.snd h)
      simp only [askAll_of_ask_ok h, List.map_cons, Runtime.answers_of_ok h, hconsole, ih]
      rfl

theorem get?_askAll (declared : List Declaration) (s : Session σ) (name : String) :
    (s.askAll declared).2.bindings.get? name =
      (latest? name (Runtime.answers (declared.map Declaration.name) s.console)).or
        (s.bindings.get? name) := by
  rw [askAll_eq, Bindings.get?_keep]

/-- Where asking succeeds, each of the variables is among those that are given a value. -/
theorem exists_latest?_of_askAll {declared : List Declaration} {s t : Session σ}
    (h : s.askAll declared = (.ok (), t)) {name : String}
    (hname : name ∈ declared.map Declaration.name) :
    ∃ value, latest? name (Runtime.answers (declared.map Declaration.name) s.console) =
      some value := by
  -- in a session without values before, a value can only be that of an answer
  have hfresh : (ofConsole s.console).askAll declared =
      (.ok (), ((ofConsole s.console).askAll declared).2) := by
    rw [askAll_eq] at h ⊢
    exact Prod.ext (Prod.mk.inj h).1 rfl
  have hsome := (isSome_get?_of_askAll hfresh name).2 (.inl hname)
  rw [get?_askAll] at hsome
  change ((latest? name (Runtime.answers _ s.console)).or none).isSome = true at hsome
  rw [Option.or_none] at hsome
  exact Option.isSome_iff_exists.1 hsome

end Session

/-- No value is given to a variable that is not asked for. -/
theorem latest?_answers_eq_none {σ : Type} [Runtime σ] {names : List String} {name : String}
    (h : name ∉ names) (c : σ) : latest? name (Runtime.answers names c) = none := by
  unfold latest?
  rw [List.findSome?_eq_none_iff]
  intro a ha
  have hmem : a.name ∈ names := by
    apply List.mem_of_mem_take
    rw [← Runtime.map_name_answers names c]
    exact List.mem_map_of_mem (List.mem_reverse.1 ha)
  have hne : a.name ≠ name := by
    rintro rfl
    exact h hmem
  exact if_neg hne

end Calculator
