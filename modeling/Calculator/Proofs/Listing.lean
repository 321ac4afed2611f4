/-
  Calculator.Proofs.Listing
  ─────────────────────────
  **THE CHECK LISTS EVERY PROBLEM ONCE, IN ORDER.**

  A problem of a program has a site: the index of a declared variable, or a position in the
  expression, given by the ways down to it.  Which problem a site has is said here for each
  site alone (`Program.HasProblem`): a variable is declared again, a variable is used that is
  declared nowhere, or something is missing.  The check remembers what it has seen on its
  way, and yet it tells exactly these problems, the sites from left to right.

  For the variables the invariant is that what is remembered of those in front finds the same
  first declaration of each name (`repeatedNames_eq`).  For the expression the problems of an
  operator node are those of its operands, one way further down (`Expr.faultAt_binary_iff`).

  Main statement: `problems_are_listed`.
-/
import Calculator.Program.Check

namespace Calculator

/-! ## §1. Sites. -/

/-- A way down from an operator node. -/
inductive Side where
  | left
  | right
  deriving DecidableEq, Repr, Inhabited

/-- A place in a program that can have a problem. -/
inductive Site where
  /-- The declared variable of an index. -/
  | variable (index : Nat)
  /-- The position in the expression to which the ways lead. -/
  | position (path : List Side)
  deriving DecidableEq, Repr, Inhabited

/-- The first site stands in front of the second. -/
inductive Site.Before : Site → Site → Prop where
  | declared {i j : Nat} (less : i < j) : Before (.variable i) (.variable j)
  /-- The declared variables stand in front of the expression. -/
  | body (i : Nat) (path : List Side) : Before (.variable i) (.position path)
  /-- What is on the left of a node stands in front of what is on its right. -/
  | sides (path before after : List Side) :
      Before (.position (path ++ .left :: before)) (.position (path ++ .right :: after))

theorem Site.Before.ne {s t : Site} (h : s.Before t) : s ≠ t := by
  cases h with
  | declared hlt =>
    intro heq
    cases heq
    exact Nat.lt_irrefl _ hlt
  | body => simp
  | sides path before after => simp

/-- The one of two operands that is on the side. -/
def Side.choose (left right : Expr) : Side → Expr
  | .left => left
  | .right => right

/-- What stands at a position of an expression, if it has the position. -/
def Expr.at? : List Side → Expr → Option Expr
  | [], e => some e
  | side :: path, binary _ _ left right _ => at? path (side.choose left right)
  | _ :: _, missing => none
  | _ :: _, literal _ _ _ => none
  | _ :: _, reference _ _ => none

/-! ## §2. Which problem a site has. -/

/-- The problem at a position of an expression in which `names` may be used; `ifMissing` is
the problem of the whole expression being missing. -/
inductive Expr.FaultAt (names : List String) (ifMissing : SemanticError) (e : Expr) :
    List Side → SemanticError → Prop where
  /-- A variable is used that is declared nowhere. -/
  | undeclared {path : List Side} {name : String} {span : Span}
      (here : e.at? path = some (.reference name span)) (free : name ∉ names) :
      FaultAt names ifMissing e path (.notDeclared name span)
  /-- The operator right above the position lacks the operand there. -/
  | operand {path : List Side} {side : Side} {op : Operator} {opSpan span : Span}
      {left right : Expr} (above : e.at? path = some (.binary op opSpan left right span))
      (here : e.at? (path ++ [side]) = some .missing) :
      FaultAt names ifMissing e (path ++ [side]) (.missingOperand op opSpan)
  | whole (here : e.at? [] = some .missing) : FaultAt names ifMissing e [] ifMissing

/-- The problem at a site of a program. -/
inductive Program.HasProblem (p : Program) : Site → SemanticError → Prop where
  /-- A variable that an earlier one is called like; `first` is the first one that is. -/
  | again {i j : Nat} {d first : Declaration} (here : p.declared[i]? = some d)
      (there : p.declared[j]? = some first) (earlier : j < i) (same : first.name = d.name)
      (least : ∀ k < j, ∀ other, p.declared[k]? = some other → other.name ≠ d.name) :
      HasProblem p (.variable i) (.alreadyDeclared d.name d.span first.span)
  | fault {path : List Side} {problem : SemanticError}
      (fault : p.body.FaultAt (p.declared.map Declaration.name) (.missingBody p.span) path
        problem) :
      HasProblem p (.position path) problem

/-! ## §3. Declared variables. -/

/-- The site and the problem of a declared variable, given with its index, if one of those in
front is called like it. -/
def repetition? (declared : List Declaration) (d : Declaration × Nat) :
    Option (Site × SemanticError) :=
  ((declared.take d.2).find? fun first => first.name == d.1.name).map fun first =>
    (.variable d.2, .alreadyDeclared d.1.name d.1.span first.span)

/-- What is remembered of the variables `front` finds the same first declaration of each
name as they do. -/
def Remembers (firsts front : List Declaration) : Prop :=
  ∀ name, firsts.find? (·.name == name) = front.find? (·.name == name)

/-- A variable that one in front is called like need not be remembered. -/
theorem Remembers.old {firsts front : List Declaration} {d first : Declaration}
    (h : Remembers firsts front) (hd : firsts.find? (·.name == d.name) = some first) :
    Remembers firsts (front ++ [d]) := by
  intro name
  rw [List.find?_append, ← h name]
  by_cases hn : d.name = name
  · -- of this name an earlier variable is found, whatever comes behind it
    subst hn
    simp [hd]
  · simp [hn]

/-- A variable with a name of its own is the first one of that name. -/
theorem Remembers.new {firsts front : List Declaration} {d : Declaration}
    (h : Remembers firsts front) (hd : firsts.find? (·.name == d.name) = none) :
    Remembers (d :: firsts) (front ++ [d]) := by
  intro name
  rw [List.find?_append, ← h name]
  by_cases hn : d.name = name
  · subst hn
    simp [hd]
  · simp [hn]

/-- The repeated variables behind those that are remembered are told of in order. -/
theorem repeatedNames_eq {firsts front : List Declaration} (later : List Declaration)
    (h : Remembers firsts front) :
    repeatedNames firsts later =
      ((later.zipIdx front.length).filterMap (repetition? (front ++ later))).map Prod.snd := by
  induction later generalizing firsts front with
  | nil => rfl
  | cons d later ih =>
    have hsplit : front ++ d :: later = (front ++ [d]) ++ later := by simp
    have hlength : (front ++ [d]).length = front.length + 1 := by simp
    -- the variables in front of the index of `d` are those that are remembered
    have htake : (front ++ d :: later).take front.length = front := List.take_left
    have hrep : repetition? (front ++ d :: later) (d, front.length) =
        (firsts.find? (·.name == d.name)).map fun first =>
          (.variable front.length, .alreadyDeclared d.name d.span first.span) := by
      unfold repetition?
      rw [htake, ← h d.name]
    rw [List.zipIdx_cons]
    unfold repeatedNames
    cases hd : firsts.find? (·.name == d.name) with
    | some first =>
      rw [hd, Option.map_some] at hrep
      rw [List.filterMap_cons_some hrep, List.map_cons, hsplit, ← hlength, ← ih (h.old hd)]
    | none =>
      rw [hd, Option.map_none] at hrep
      rw [List.filterMap_cons_none hrep, hsplit, ← hlength, ← ih (h.new hd)]

/-- A variable is told of exactly if it has a problem. -/
theorem repetition?_eq_some_iff {p : Program} {d : Declaration} {i : Nat} {site : Site}
    {problem : SemanticError} (hd : p.declared[i]? = some d) :
    repetition? p.declared (d, i) = some (site, problem) ↔
      site = .variable i ∧ p.HasProblem (.variable i) problem := by
  unfold repetition?
  rw [Option.map_eq_some_iff]
  constructor
  · rintro ⟨first, hfind, heq⟩
    cases heq
    obtain ⟨hname, j, hj, hthere, hleast⟩ := List.find?_eq_some_iff_getElem.1 hfind
    rw [List.length_take, Nat.lt_min] at hj
    rw [List.getElem_take] at hthere
    have hfirst : p.declared[j]? = some first := List.getElem?_eq_some_iff.2 ⟨hj.2, hthere⟩
    refine ⟨rfl, .again hd hfirst hj.1 (by simpa using hname) ?_⟩
    intro k hk other hother
    obtain ⟨hlt, rfl⟩ := List.getElem?_eq_some_iff.1 hother
    simpa using hleast k hk
  · rintro ⟨rfl, hproblem⟩
    cases hproblem with
    | @again _ j d' first here there earlier same least =>
      cases hd.symm.trans here
      refine ⟨first, List.find?_eq_some_iff_getElem.2 ⟨by simpa using same, j, ?_⟩, rfl⟩
      obtain ⟨hj, rfl⟩ := List.getElem?_eq_some_iff.1 there
      refine ⟨by rw [List.length_take]; omega, List.getElem_take, ?_⟩
      intro k hk
      have hother := least k hk _ (List.getElem?_eq_getElem (by omega))
      simpa using hother

/-! ## §4. Expressions. -/

namespace Expr

variable {names : List String} {ifMissing problem : SemanticError} {path : List Side}

/-- The problems of an operator node are those of its operands, one way further down. -/
theorem faultAt_binary_iff {op : Operator} {opSpan span : Span} {left right : Expr} :
    (binary op opSpan left right span).FaultAt names ifMissing path problem ↔
      ∃ side later, path = side :: later ∧
        (side.choose left right).FaultAt names (.missingOperand op opSpan) later problem := by
  constructor
  · intro h
    cases h with
    | @undeclared path _ _ here free =>
      cases path with
      | nil => cases here
      | cons side later => exact ⟨side, later, rfl, .undeclared here free⟩
    | @operand path side _ _ _ _ _ above here =>
      cases path with
      | nil =>
        -- the operand that the node itself lacks is missing as a whole
        cases above
        exact ⟨side, [], rfl, .whole here⟩
      | cons first later => exact ⟨first, _, rfl, .operand above here⟩
    | whole here => cases here
  · rintro ⟨side, later, rfl, h⟩
    cases h with
    | undeclared here free => exact .undeclared here free
    | @operand path last _ _ _ _ _ above here =>
      show FaultAt _ _ _ ((side :: path) ++ [last]) _
      exact .operand above here
    | whole here =>
      show FaultAt _ _ _ ([] ++ [side]) _
      exact .operand rfl here

/-- The problems of an expression with their positions. -/
def faults (names : List String) (ifMissing : SemanticError) :
    Expr → List (List Side × SemanticError)
  | missing => [([], ifMissing)]
  | literal _ _ _ => []
  | reference name span => if name ∈ names then [] else [([], .notDeclared name span)]
  | binary op opSpan left right _ =>
    ((left.faults names (.missingOperand op opSpan)).map fun f => (.left :: f.1, f.2)) ++
      (right.faults names (.missingOperand op opSpan)).map fun f => (.right :: f.1, f.2)

theorem map_snd_faults (e : Expr) (names : List String) (ifMissing : SemanticError) :
    (e.faults names ifMissing).map Prod.snd = e.problems names ifMissing := by
  induction e generalizing ifMissing with
  | missing => rfl
  | literal => rfl
  | reference name span =>
    unfold faults problems
    split
    · rfl
    · rfl
  | binary op opSpan left right span ihl ihr =>
    unfold faults problems
    rw [List.map_append, List.map_map, List.map_map, ← ihl, ← ihr]
    rfl

/-- The problems are listed from left to right. -/
theorem pairwise_faults (e : Expr) (names : List String) (ifMissing : SemanticError) :
    (e.faults names ifMissing).Pairwise fun f g =>
      Site.Before (.position f.1) (.position g.1) := by
  induction e generalizing ifMissing with
  | missing => exact List.pairwise_singleton _ _
  | literal => exact .nil
  | reference name span =>
    unfold faults
    split
    · exact .nil
    · exact List.pairwise_singleton _ _
  | binary op opSpan left right span ihl ihr =>
    -- one way further down, what was in front still is
    have hdown : ∀ {side : Side} {path path' : List Side},
        Site.Before (.position path) (.position path') →
          Site.Before (.position (side :: path)) (.position (side :: path')) := by
      intro side path path' h
      cases h with
      | sides front before after => exact .sides (side :: front) before after
    unfold faults
    refine List.pairwise_append.2 ⟨?_, ?_, ?_⟩
    · exact List.pairwise_map.2 ((ihl _).imp hdown)
    · exact List.pairwise_map.2 ((ihr _).imp hdown)
    · intro f hf g hg
      obtain ⟨f', -, rfl⟩ := List.mem_map.1 hf
      obtain ⟨g', -, rfl⟩ := List.mem_map.1 hg
      exact .sides [] f'.1 g'.1

/-- An expression without operands has no problem but its own. -/
theorem FaultAt.of_leaf {e : Expr} (h : e.FaultAt names ifMissing path problem)
    (hleaf : ∀ side later, e.at? (side :: later) = none) :
    path = [] ∧ (e = missing ∧ problem = ifMissing ∨
      ∃ name span, e = reference name span ∧ name ∉ names ∧ problem = .notDeclared name span) := by
  cases h with
  | @undeclared path name span here free =>
    cases path with
    | nil =>
      cases here
      exact ⟨rfl, .inr ⟨name, span, rfl, free, rfl⟩⟩
    | cons side later =>
      rw [hleaf] at here
      cases here
  | @operand path side _ _ _ _ _ _ here =>
    -- no operand is missing where there are none
    cases path with
    | nil =>
      rw [List.nil_append, hleaf] at here
      cases here
    | cons first later =>
      rw [List.cons_append, hleaf] at here
      cases here
  | whole here =>
    cases here
    exact ⟨rfl, .inl ⟨rfl, rfl⟩⟩

/-- A problem is listed exactly if its position has it. -/
theorem mem_faults_iff (e : Expr) (names : List String) (ifMissing : SemanticError) :
    (path, problem) ∈ e.faults names ifMissing ↔ e.FaultAt names ifMissing path problem := by
  induction e generalizing ifMissing path with
  | missing =>
    constructor
    · intro h
      cases List.mem_singleton.1 h
      exact .whole rfl
    · intro h
      obtain ⟨rfl, ⟨-, rfl⟩ | ⟨_, _, he, -⟩⟩ := h.of_leaf fun _ _ => rfl
      · exact List.mem_singleton_self _
      · cases he
  | literal =>
    constructor
    · intro h
      cases h
    · intro h
      obtain ⟨-, ⟨he, -⟩ | ⟨_, _, he, -⟩⟩ := h.of_leaf fun _ _ => rfl
      · cases he
      · cases he
  | reference name span =>
    unfold faults
    constructor
    · intro h
      split at h
      · cases h
      · next free =>
        cases List.mem_singleton.1 h
        exact .undeclared rfl free
    · intro h
      obtain ⟨rfl, ⟨he, -⟩ | ⟨_, _, he, free, rfl⟩⟩ := h.of_leaf fun _ _ => rfl
      · cases he
      · cases he
        rw [if_neg free]
        exact List.mem_singleton_self _
  | binary op opSpan left right span ihl ihr =>
    -- a problem of the node is one of an operand, which tells it one way further up
    rw [faultAt_binary_iff]
    unfold faults
    constructor
    · intro h
      rcases List.mem_append.1 h with h | h
      · obtain ⟨⟨later, problem⟩, hf, heq⟩ := List.mem_map.1 h
        cases heq
        exact ⟨.left, later, rfl, (ihl _).1 hf⟩
      · obtain ⟨⟨later, problem⟩, hf, heq⟩ := List.mem_map.1 h
        cases heq
        exact ⟨.right, later, rfl, (ihr _).1 hf⟩
    · rintro ⟨side, later, rfl, hf⟩
      cases side with
      | left => exact List.mem_append_left _ (List.mem_map.2 ⟨_, (ihl _).2 hf, rfl⟩)
      | right => exact List.mem_append_right _ (List.mem_map.2 ⟨_, (ihr _).2 hf, rfl⟩)

end Expr

/-! ## §5. Programs. -/

/-- Only of an expression that is missing it matters which problem that is. -/
theorem Expr.problems_congr {e : Expr} (h : e ≠ .missing) (names : List String)
    (problem other : SemanticError) : e.problems names problem = e.problems names other := by
  cases e with
  | missing => exact absurd rfl h
  | literal => rfl
  | reference => rfl
  | binary => rfl

/-- The problems of a program are those of its declared variables and those of its
expression. -/
theorem Program.problems_eq_append (p : Program) :
    p.problems = repeatedNames [] p.declared ++
      p.body.problems (p.declared.map Declaration.name) (.missingBody p.span) := by
  cases p with
  | bare body present =>
    exact body.problems_congr present [] _ _
  | declaring withSpan declared body => rfl

/-- The problems of a program with their sites. -/
def Program.sites (p : Program) : List (Site × SemanticError) :=
  p.declared.zipIdx.filterMap (repetition? p.declared) ++
    (p.body.faults (p.declared.map Declaration.name) (.missingBody p.span)).map fun f =>
      (.position f.1, f.2)

theorem Program.map_snd_sites (p : Program) : p.sites.map Prod.snd = p.problems := by
  have hrepeated : repeatedNames [] p.declared =
      (p.declared.zipIdx.filterMap (repetition? p.declared)).map Prod.snd := by
    have hnothing : Remembers [] [] := fun _ => rfl
    exact repeatedNames_eq p.declared hnothing
  unfold sites
  rw [p.problems_eq_append, List.map_append, hrepeated, List.map_map, ← Expr.map_snd_faults]
  rfl

theorem Program.pairwise_sites (p : Program) :
    p.sites.Pairwise fun s t => s.1.Before t.1 := by
  have hsite : ∀ {d : Declaration × Nat} {s : Site × SemanticError},
      repetition? p.declared d = some s → s.1 = .variable d.2 := by
    intro d s h
    obtain ⟨first, -, rfl⟩ := Option.map_eq_some_iff.1 h
    rfl
  have hindex : p.declared.zipIdx.Pairwise fun d e => d.2 < e.2 := by
    rw [← List.pairwise_map, List.zipIdx_map_snd]
    exact List.pairwise_lt_range'
  refine List.pairwise_append.2 ⟨?_, List.pairwise_map.2 (Expr.pairwise_faults _ _ _), ?_⟩
  · refine List.pairwise_filterMap.2 (hindex.imp ?_)
    intro d e hlt s hs t ht
    rw [hsite hs, hsite ht]
    exact .declared hlt
  · intro s hs t ht
    obtain ⟨d, -, hd⟩ := List.mem_filterMap.1 hs
    obtain ⟨f, -, rfl⟩ := List.mem_map.1 ht
    rw [hsite hd]
    exact .body d.2 f.1

theorem Program.mem_sites_iff {p : Program} {site : Site} {problem : SemanticError} :
    (site, problem) ∈ p.sites ↔ p.HasProblem site problem := by
  unfold sites
  rw [List.mem_append, List.mem_filterMap, List.mem_map]
  constructor
  · rintro (⟨⟨d, i⟩, hd, hrep⟩ | ⟨⟨path, problem⟩, hf, heq⟩)
    · obtain ⟨rfl, hproblem⟩ :=
        (repetition?_eq_some_iff (List.mem_zipIdx_iff_getElem?.1 hd)).1 hrep
      exact hproblem
    · cases heq
      exact .fault ((Expr.mem_faults_iff _ _ _).1 hf)
  · intro h
    cases h with
    | @again i j d first here there earlier same least =>
      have hmem : (d, i) ∈ p.declared.zipIdx := List.mem_zipIdx_iff_getElem?.2 here
      refine .inl ⟨_, hmem, ?_⟩
      exact (repetition?_eq_some_iff here).2 ⟨rfl, .again here there earlier same least⟩
    | fault hf => exact .inr ⟨_, (Expr.mem_faults_iff _ _ _).2 hf, rfl⟩

/-- **THE CHECK LISTS EVERY PROBLEM ONCE, IN ORDER.**  What the check tells of a program are
the problems of its sites: those of the declared variables in their order, and then those of
the expression from left to right.  Every problem of a site is among them, and no site comes
twice. -/
theorem problems_are_listed (p : Program) :
    ∃ sites : List (Site × SemanticError),
      check (some p) = sites.map Prod.snd ∧
        (sites.Pairwise fun s t => s.1.Before t.1) ∧ (sites.map Prod.fst).Nodup ∧
        ∀ site problem, (site, problem) ∈ sites ↔ p.HasProblem site problem := by
  refine ⟨p.sites, p.map_snd_sites.symm, p.pairwise_sites, ?_, fun _ _ => p.mem_sites_iff⟩
  rw [List.Nodup, List.pairwise_map]
  exact p.pairwise_sites.imp Site.Before.ne

end Calculator
