/-
  Calculator.Proofs.Forms
  ───────────────────────
  **WHICH ARGUMENTS ARE UNDERSTOOD.**

  Arguments are taken out of a command line one after the other: the first print option, the
  first file option with the argument behind it, the first argument that is no option.  Then
  nothing may be left.  Which arguments these can have been is said by their form (`Asks`).

  Main statements:
    * `takeFile_eq_ok_iff` — where the path of a file comes from;
    * `command_eq_ok_iff`  — which arguments a command is made of;
    * `read_eq_ok_iff`     — what all the arguments ask for.
-/
import Calculator.Arguments

namespace Calculator

namespace Arguments

/-! ## §1. What is taken. -/

/-- Taking the first file option and the path behind it out of the arguments gives `path` and
leaves `left`. -/
inductive TakesFile : List String → Option String → List String → Prop where
  /-- Without the option all arguments are left. -/
  | absent {args : List String} (missing : fileOption ∉ args) : TakesFile args none args
  /-- The option and its path are gone. -/
  | found {front back : List String} {path : String} (first : fileOption ∉ front) :
      TakesFile (front ++ fileOption :: path :: back) (some path) (front ++ back)

/-- Arguments in front of the first file option are left. -/
theorem takeFile_append {front : List String} (h : fileOption ∉ front) (later : List String) :
    takeFile (front ++ later) =
      (takeFile later).map fun taken => (taken.1, front ++ taken.2) := by
  induction front with
  | nil =>
    cases htake : takeFile later with
    | error e => exact htake
    | ok taken => exact htake
  | cons arg front ih =>
    obtain ⟨harg, hfront⟩ := not_or.1 (mt List.mem_cons.2 h)
    have hcons : takeFile (arg :: (front ++ later)) =
        (takeFile (front ++ later)).map fun taken => (taken.1, arg :: taken.2) :=
      if_neg (Ne.symm harg)
    rw [List.cons_append, hcons, ih hfront]
    cases takeFile later with
    | error e => rfl
    | ok taken => rfl

theorem takeFile_of_notMem {args : List String} (h : fileOption ∉ args) :
    takeFile args = .ok (none, args) := by
  have hall := takeFile_append h []
  rw [List.append_nil] at hall
  rw [hall, takeFile, Except.map, List.append_nil]

/-- Where the path of a file comes from: it stands behind the first file option. -/
theorem takeFile_eq_ok_iff {args left : List String} {path : Option String} :
    takeFile args = .ok (path, left) ↔ TakesFile args path left := by
  constructor
  · intro h
    by_cases hmem : fileOption ∈ args
    · obtain ⟨front, later, rfl, hfront⟩ := List.eq_append_cons_of_mem hmem
      rw [takeFile_append hfront] at h
      cases later with
      | nil => cases h
      | cons path back =>
        cases h
        exact .found hfront
    · rw [takeFile_of_notMem hmem] at h
      cases h
      exact .absent hmem
  · intro h
    cases h with
    | absent hargs => exact takeFile_of_notMem hargs
    | found hfront => exact takeFile_append hfront _

/-- Nothing is left of the arguments if there are none, or only one that is no option. -/
theorem takeExpression_eq_nil_iff {args : List String} {source : Option String} :
    takeExpression args = (source, []) ↔
      args = source.toList ∧ ∀ text ∈ source, isOption text = false := by
  cases args with
  | nil => cases source <;> simp [takeExpression]
  | cons arg later =>
    by_cases harg : isOption arg = true
    · -- an option is always left
      rw [takeExpression, if_pos harg]
      constructor
      · intro h
        cases (Prod.mk.inj h).2
      · intro h
        cases source with
        | none => cases h.1
        | some text =>
          cases h.1
          rw [h.2 arg rfl] at harg
          cases harg
    · rw [takeExpression, if_neg harg]
      constructor
      · intro h
        cases h
        exact ⟨rfl, by simpa using harg⟩
      · intro h
        cases source with
        | none => cases h.1
        | some text =>
          cases h.1
          rfl

/-! ## §2. What is understood. -/

/-- What the arguments other than the print option ask for: nothing, one that does not start
like an option, or the file option with any argument behind it. -/
inductive Asks : List String → Command → Prop where
  | prompt : Asks [] .prompt
  | expression {source : String} (plain : ¬['-', '-'] <+: source.toList) :
      Asks [source] (.expression source)
  | file {path : String} : Asks ["--file", path] (.file path)

theorem isOption_eq_false_iff {arg : String} :
    isOption arg = false ↔ ¬['-', '-'] <+: arg.toList := by
  rw [isOption, ← Bool.not_eq_true, List.isPrefixOf_iff_prefix]

/-- What has not the form of an option is none of the options. -/
theorem ne_of_isOption {arg option : String} (h : isOption arg = false)
    (hoption : isOption option = true) : arg ≠ option := by
  rintro rfl
  rw [h] at hoption
  cases hoption

/-- If only a file is taken and nothing is left, there is nothing but the option and the path. -/
theorem TakesFile.eq_of_nil {args left : List String} {path : String}
    (h : TakesFile args (some path) left) (hleft : left = []) : args = [fileOption, path] := by
  cases h with
  | found =>
    obtain ⟨rfl, rfl⟩ := List.append_eq_nil_iff.1 hleft
    rfl

theorem TakesFile.eq_of_none {args left : List String} (h : TakesFile args none left) :
    args = left := by
  cases h
  rfl

/-- A command is made of the arguments that ask for it, and of no others. -/
theorem command_eq_ok_iff {args : List String} {c : Command} :
    command args = .ok c ↔ Asks args c := by
  constructor
  · intro h
    unfold command at h
    split at h
    · cases h
    · next path left hfile =>
      have htaken := takeFile_eq_ok_iff.1 hfile
      split at h
      · next source hsource =>
        obtain ⟨hleft, hplain⟩ := takeExpression_eq_nil_iff.1 hsource
        -- what has been taken are all arguments
        cases path with
        | none =>
          rw [htaken.eq_of_none, hleft]
          cases source with
          | none =>
            cases h
            exact .prompt
          | some text =>
            cases h
            exact .expression (isOption_eq_false_iff.1 (hplain text rfl))
        | some path =>
          cases source with
          | none =>
            cases h
            rw [htaken.eq_of_nil hleft]
            exact .file
          | some text => cases h
      · cases h
  · intro h
    cases h with
    | prompt => rfl
    | @expression source hplain =>
      have hoption : isOption source = false := isOption_eq_false_iff.2 hplain
      have hfile : takeFile [source] = .ok (none, [source]) :=
        takeFile_of_notMem (mt List.mem_singleton.1 (ne_of_isOption hoption rfl).symm)
      have hsource : takeExpression [source] = (some source, []) :=
        takeExpression_eq_nil_iff.2 ⟨rfl, fun text htext => Option.some.inj htext ▸ hoption⟩
      unfold command
      rw [hfile]
      dsimp only
      rw [hsource]
    | file => rfl

theorem exists_asks_iff {args : List String} :
    (∃ c, Asks args c) ↔
      args = [] ∨ (∃ source, args = [source] ∧ ¬['-', '-'] <+: source.toList) ∨
        ∃ path, args = ["--file", path] := by
  constructor
  · intro h
    obtain ⟨c, hc⟩ := h
    cases hc with
    | prompt => exact .inl rfl
    | expression hplain => exact .inr (.inl ⟨_, rfl, hplain⟩)
    | file => exact .inr (.inr ⟨_, rfl⟩)
  · intro h
    rcases h with rfl | ⟨source, rfl, hplain⟩ | ⟨path, rfl⟩
    · exact ⟨_, .prompt⟩
    · exact ⟨_, .expression hplain⟩
    · exact ⟨_, .file⟩

/-- What the arguments ask for: a command without the first print option, and a tree if there
is one. -/
theorem read_eq_ok_iff {args : List String} {invocation : Invocation} :
    read args = .ok invocation ↔
      invocation.printTree = decide (printOption ∈ args) ∧
        Asks (args.erase printOption) invocation.command := by
  have hmem : args.contains printOption = decide (printOption ∈ args) := List.contains_eq_mem ..
  unfold read
  constructor
  · intro h
    cases hcommand : command (args.erase printOption) with
    | error e =>
      rw [hcommand] at h
      cases h
    | ok c =>
      rw [hcommand] at h
      cases h
      exact ⟨hmem, command_eq_ok_iff.1 hcommand⟩
  · intro h
    rw [command_eq_ok_iff.2 h.2, hmem, ← h.1]
    rfl

end Arguments

end Calculator
