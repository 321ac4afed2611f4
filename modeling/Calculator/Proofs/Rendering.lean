/-
  Calculator.Proofs.Rendering
  ───────────────────────────
  **THE RENDERED FORM LOSES NOTHING.**

  The rendered form of a program has neither lengths nor escapes.  It can be read all the
  same: its parentheses and spaces cut it into atoms, since no atom has one inside, and what
  an expression starts with tells what it is (`Start.ofChar`).  So an expression is known
  from the front of any text that does not go on with its last atom
  (`Expr.render_append_inj`), and what stands behind it is known too.

  This rests on the names.  The scanner lets through only letters and digits, a letter in
  front, so no name looks like a hole or like a number (`isLegible_of_parse`).

  Main statement: `render_loses_nothing`.
-/
import Calculator.Proofs.Nesting
import Calculator.Proofs.Printing
import Calculator.Proofs.Spelling

namespace Calculator

/-! ## §1. Atoms. -/

/-- The character can stand in an atom: it is no space and no parenthesis. -/
def isAtomChar (c : Char) : Bool := c != ' ' && c != '(' && c != ')'

/-- The text is one atom. -/
def IsAtom (word : List Char) : Prop := ∀ c ∈ word, isAtomChar c = true

/-- No atom goes on at the start of the text. -/
def Stops (text : List Char) : Prop := ∀ c ∈ text.head?, isAtomChar c = false

theorem stops_nil : Stops [] := by
  intro c hc
  cases hc

theorem stops_space (text : List Char) : Stops (' ' :: text) := by
  intro c hc
  cases hc
  rfl

theorem stops_paren (text : List Char) : Stops (')' :: text) := by
  intro c hc
  cases hc
  rfl

theorem takeWhile_atom {word text : List Char} (hw : IsAtom word) (ht : Stops text) :
    (word ++ text).takeWhile isAtomChar = word := by
  rw [List.takeWhile_append_of_pos hw]
  cases text with
  | nil => exact List.append_nil word
  | cons c text =>
    rw [List.takeWhile_cons_of_neg (by simp [ht c rfl]), List.append_nil]

/-- An atom is known from the front of a text, and so is what stands behind it. -/
theorem atom_append_inj {word word' text text' : List Char} (hw : IsAtom word)
    (hw' : IsAtom word') (ht : Stops text) (ht' : Stops text')
    (h : word ++ text = word' ++ text') : word = word' ∧ text = text' := by
  have hword : word = word' := by
    rw [← takeWhile_atom hw ht, h, takeWhile_atom hw' ht']
  subst hword
  exact ⟨rfl, List.append_cancel_left h⟩

theorem isAtomChar_of_isAlphanum {c : Char} (h : c.isAlphanum = true) : isAtomChar c = true := by
  unfold isAtomChar
  have hspace : c ≠ ' ' := by
    rintro rfl
    cases h
  have hopen : c ≠ '(' := by
    rintro rfl
    cases h
  have hclose : c ≠ ')' := by
    rintro rfl
    cases h
  simp [hspace, hopen, hclose]

theorem IsName.isAtom {name : String} (h : IsName name) : IsAtom name.toList := by
  obtain ⟨c, cs, hname, hc, hcs, -⟩ := h
  rw [hname]
  refine List.forall_mem_cons.2 ⟨isAtomChar_of_isAlphanum (by simp [Char.isAlphanum, hc]), ?_⟩
  intro d hd
  exact isAtomChar_of_isAlphanum (hcs d hd)

/-- The text of a number is its digits, with a sign in front if it is negative. -/
theorem write_cases (v : Int32) : ∃ digits : List Char,
    digits ≠ [] ∧ (∀ d ∈ digits, d.isDigit = true) ∧
      ((Number.write v).toList = digits ∨ (Number.write v).toList = '-' :: digits) := by
  refine ⟨Nat.toDigits 10 v.toInt.natAbs, Nat.toDigits_ne_nil,
    fun d hd => Nat.isDigit_of_mem_toDigits (by decide) (by decide) hd, ?_⟩
  unfold Number.write
  split
  · refine .inr ?_
    rw [String.toList_append, Nat.toList_repr]
    rfl
  · exact .inl Nat.toList_repr

theorem isAtom_write (v : Int32) : IsAtom (Number.write v).toList := by
  obtain ⟨digits, -, hdigits, hwrite⟩ := write_cases v
  have hatom : IsAtom digits := by
    intro d hd
    exact isAtomChar_of_isAlphanum (by simp [Char.isAlphanum, hdigits d hd])
  rcases hwrite with hwrite | hwrite
  · rw [hwrite]
    exact hatom
  · rw [hwrite]
    exact List.forall_mem_cons.2 ⟨rfl, hatom⟩

theorem write_inj {v w : Int32} (h : (Number.write v).toList = (Number.write w).toList) :
    v = w := by
  have hread := Number.read?_write v
  rw [h, Number.read?_write] at hread
  exact (Option.some.inj hread).symm

/-! ## §2. What an expression starts with. -/

/-- What a rendered expression can be. -/
inductive Start where
  | hole
  | number
  | name
  | operation

/-- What is rendered, as told by the first character. -/
def Start.ofChar (c : Char) : Start :=
  if c = '(' then .operation
  else if c = '<' then .hole
  else if c.isAlpha then .name
  else .number

theorem Start.ofChar_of_isDigit {c : Char} (h : c.isDigit = true) : ofChar c = .number := by
  have hopen : c ≠ '(' := by
    rintro rfl
    cases h
  have hhole : c ≠ '<' := by
    rintro rfl
    cases h
  have halpha : ¬c.isAlpha = true := by
    rw [isAlpha_of_isDigit h]
    exact Bool.false_ne_true
  rw [ofChar, if_neg hopen, if_neg hhole, if_neg halpha]

theorem Start.ofChar_of_isAlpha {c : Char} (h : c.isAlpha = true) : ofChar c = .name := by
  have hopen : c ≠ '(' := by
    rintro rfl
    cases h
  have hhole : c ≠ '<' := by
    rintro rfl
    cases h
  rw [ofChar, if_neg hopen, if_neg hhole, if_pos h]

namespace Expr

/-- What is rendered of the expression. -/
def start : Expr → Start
  | missing => .hole
  | literal _ _ _ => .number
  | reference _ _ => .name
  | binary _ _ _ _ _ => .operation

/-- All variables of the expression have names. -/
def IsLegible (e : Expr) : Prop := ∀ name ∈ e.usedNames, IsName name

theorem toList_render_binary (op : Operator) (opSpan : Span) (left right : Expr) (span : Span)
    (text : List Char) :
    (binary op opSpan left right span).render.toList ++ text =
      '(' :: (op.symbol.toList ++ ' ' ::
        (left.render.toList ++ ' ' :: (right.render.toList ++ ')' :: text))) := by
  simp [render, String.toList_append]

/-- The first character tells what is rendered. -/
theorem exists_cons_render {e : Expr} (h : e.IsLegible) :
    ∃ c cs, e.render.toList = c :: cs ∧ Start.ofChar c = e.start := by
  cases e with
  | missing => exact ⟨'<', _, rfl, rfl⟩
  | literal value text span =>
    obtain ⟨digits, hne, hdigits, hwrite | hwrite⟩ := write_cases value
    · obtain ⟨c, cs, rfl⟩ := List.exists_cons_of_ne_nil hne
      exact ⟨c, cs, hwrite, Start.ofChar_of_isDigit (hdigits c (List.mem_cons_self ..))⟩
    · exact ⟨'-', digits, hwrite, rfl⟩
  | reference name span =>
    obtain ⟨c, cs, hname, hc, -⟩ := h name (List.mem_singleton_self name)
    exact ⟨c, cs, hname, Start.ofChar_of_isAlpha hc⟩
  | binary op opSpan left right span =>
    have hrender := toList_render_binary op opSpan left right span []
    rw [List.append_nil] at hrender
    exact ⟨'(', _, hrender, rfl⟩

/-- Expressions that are rendered alike are of the same kind. -/
theorem start_eq {e f : Expr} (he : e.IsLegible) (hf : f.IsLegible) {text text' : List Char}
    (h : e.render.toList ++ text = f.render.toList ++ text') : e.start = f.start := by
  obtain ⟨c, cs, hc, hstart⟩ := exists_cons_render he
  obtain ⟨d, ds, hd, hstart'⟩ := exists_cons_render hf
  rw [hc, hd] at h
  rw [← hstart, ← hstart', (List.cons.inj h).1]

end Expr

/-- Operators have signs of their own. -/
theorem Operator.symbol_inj {op op' : Operator} (h : op.symbol = op'.symbol) : op = op' := by
  have hfind : ∀ o : Operator,
      [add, sub, mul, div].find? (fun other => other.symbol == o.symbol) = some o := by
    intro o
    cases o <;> decide
  have hop := hfind op
  rw [h, hfind op'] at hop
  exact (Option.some.inj hop).symm

/-- An operator is known from the front of a text, and so is what stands behind it. -/
theorem symbol_append_inj {op op' : Operator} {text text' : List Char}
    (h : op.symbol.toList ++ text = op'.symbol.toList ++ text') : op = op' ∧ text = text' := by
  have hone : ∀ o : Operator, o.symbol.toList.length = 1 := by
    intro o
    cases o <;> rfl
  obtain ⟨hsymbol, htext⟩ := List.append_inj h ((hone op).trans (hone op').symm)
  exact ⟨Operator.symbol_inj (String.toList_inj.1 hsymbol), htext⟩

/-! ## §3. Expressions. -/

namespace Expr

theorem IsLegible.left {op : Operator} {opSpan span : Span} {left right : Expr}
    (h : (binary op opSpan left right span).IsLegible) : left.IsLegible :=
  (List.forall_mem_append.1 h).1

theorem IsLegible.right {op : Operator} {opSpan span : Span} {left right : Expr}
    (h : (binary op opSpan left right span).IsLegible) : right.IsLegible :=
  (List.forall_mem_append.1 h).2

/-- An expression is known from the front of a text, places and texts of numbers apart, and
so is what stands behind it. -/
theorem render_append_inj {e f : Expr} (he : e.IsLegible) (hf : f.IsLegible)
    {text text' : List Char} (ht : Stops text) (ht' : Stops text')
    (h : e.render.toList ++ text = f.render.toList ++ text') :
    e.shape.unspelled = f.shape.unspelled ∧ text = text' := by
  have hstart := start_eq he hf h
  induction e generalizing f text text' with
  | missing =>
    cases f with
    | missing => exact ⟨rfl, List.append_cancel_left h⟩
    | literal | reference | binary => cases hstart
  | literal value =>
    cases f with
    | literal value' =>
      obtain ⟨hword, htext⟩ := atom_append_inj (isAtom_write value) (isAtom_write value') ht ht' h
      rw [write_inj hword]
      exact ⟨rfl, htext⟩
    | missing | reference | binary => cases hstart
  | reference name =>
    cases f with
    | reference name' =>
      have hname : IsName name := he name (List.mem_singleton_self name)
      have hname' : IsName name' := hf name' (List.mem_singleton_self name')
      obtain ⟨hword, htext⟩ := atom_append_inj hname.isAtom hname'.isAtom ht ht' h
      rw [String.toList_inj.1 hword]
      exact ⟨rfl, htext⟩
    | missing | literal | binary => cases hstart
  | binary op opSpan left right span ihl ihr =>
    cases f with
    | binary op' opSpan' left' right' span' =>
      rw [toList_render_binary, toList_render_binary] at h
      -- the sign comes first, then the operands, each with a space in front
      obtain ⟨rfl, hoperands⟩ := symbol_append_inj (List.cons.inj h).2
      have hleft := (List.cons.inj hoperands).2
      obtain ⟨hl, hrest⟩ := ihl he.left hf.left (stops_space _) (stops_space _) hleft
        (start_eq he.left hf.left hleft)
      have hright := (List.cons.inj hrest).2
      obtain ⟨hr, htext⟩ := ihr he.right hf.right (stops_paren _) (stops_paren _) hright
        (start_eq he.right hf.right hright)
      refine ⟨?_, (List.cons.inj htext).2⟩
      rw [shape, shape, Shape.unspelled, Shape.unspelled, hl, hr]
    | missing | literal | reference => cases hstart

end Expr

/-! ## §4. Programs. -/

/-- Names with a space in front of each. -/
def spacedNames (names : List String) : List Char :=
  names.flatMap fun name => ' ' :: name.toList

theorem toList_intercalate_names (name : String) (names : List String) :
    (" ".intercalate (name :: names)).toList = name.toList ++ spacedNames names := by
  induction names generalizing name with
  | nil => simp [spacedNames]
  | cons next names ih =>
    rw [String.intercalate_cons_cons, String.toList_append, String.toList_append, ih]
    simp [spacedNames]

theorem stops_spacedNames (names : List String) (text : List Char) :
    Stops (spacedNames names ++ ')' :: text) := by
  cases names with
  | nil => exact stops_paren text
  | cons name names => exact stops_space _

/-- Names are known from the front of a text that goes on with a parenthesis, and so is
what stands behind them. -/
theorem spacedNames_append_inj {names names' : List String} (hn : ∀ name ∈ names, IsName name)
    (hn' : ∀ name ∈ names', IsName name) {text text' : List Char}
    (h : spacedNames names ++ ')' :: text = spacedNames names' ++ ')' :: text') :
    names = names' ∧ text = text' := by
  induction names generalizing names' with
  | nil =>
    cases names' with
    | nil => exact ⟨rfl, (List.cons.inj h).2⟩
    | cons name' names' => exact absurd (List.cons.inj h).1 (by decide)
  | cons name names ih =>
    cases names' with
    | nil => exact absurd (List.cons.inj h).1 (by decide)
    | cons name' names' =>
      obtain ⟨hname, hnames⟩ := List.forall_mem_cons.1 hn
      obtain ⟨hname', hnames'⟩ := List.forall_mem_cons.1 hn'
      have hword : name.toList ++ (spacedNames names ++ ')' :: text) =
          name'.toList ++ (spacedNames names' ++ ')' :: text') := by
        simpa [spacedNames] using h
      obtain ⟨hsame, hlater⟩ := atom_append_inj hname.isAtom hname'.isAtom
        (stops_spacedNames names text) (stops_spacedNames names' text') hword
      obtain ⟨hrest, htext⟩ := ih hnames hnames' hlater
      rw [String.toList_inj.1 hsame, hrest]
      exact ⟨rfl, htext⟩

namespace Program

/-- All variables of the program have names, and a declaration declares at least one. -/
def IsLegible (p : Program) : Prop :=
  p.body.IsLegible ∧ p.names? ≠ some [] ∧ ∀ d ∈ p.declared, IsName d.name

theorem toList_render_declaring (withSpan : Span) (d : Declaration) (later : List Declaration)
    (body : Expr) :
    (declaring withSpan (d :: later) body).render.toList =
      "(with (".toList ++ (d.name.toList ++ (spacedNames (later.map Declaration.name) ++
        ')' :: ' ' :: (body.render.toList ++ [')']))) := by
  have hnames := toList_intercalate_names d.name (later.map Declaration.name)
  rw [render, List.map_cons]
  simp only [String.toList_append, hnames, List.append_assoc]
  rfl

/-- An expression alone is not rendered like a declaration. -/
theorem render_bare_ne_declaring {e : Expr} (he : e.IsLegible) {text : List Char}
    (h : e.render.toList = "(with (".toList ++ text) : False := by
  obtain ⟨c, cs, hc, hstart⟩ := Expr.exists_cons_render he
  rw [hc] at h
  rw [(List.cons.inj h).1] at hstart
  cases e with
  | missing | literal | reference => cases hstart
  | binary op opSpan left right span =>
    -- behind the parenthesis stands the sign of an operator
    have hrender := Expr.toList_render_binary op opSpan left right span []
    rw [List.append_nil, hc, h] at hrender
    have hsign := (List.cons.inj hrender).2
    cases op with
    | add | sub | mul | div => exact absurd (List.cons.inj hsign).1 (by decide)

/-- Programs that are rendered alike declare the same names and have expressions of the
same shape. -/
theorem render_inj {p q : Program} (hp : p.IsLegible) (hq : q.IsLegible)
    (h : p.render = q.render) :
    p.names? = q.names? ∧ p.body.shape.unspelled = q.body.shape.unspelled := by
  have htext := congrArg String.toList h
  -- no expression starts like a declaration, so there is one in both texts or in none
  cases p with
  | bare body =>
    cases q with
    | bare body' =>
      refine ⟨rfl, (Expr.render_append_inj hp.1 hq.1 stops_nil stops_nil ?_).1⟩
      rw [List.append_nil, List.append_nil]
      exact htext
    | declaring withSpan' declared' body' =>
      cases declared' with
      | nil => exact absurd rfl hq.2.1
      | cons d' later' =>
        rw [toList_render_declaring] at htext
        exact (render_bare_ne_declaring hp.1 htext).elim
  | declaring withSpan declared body =>
    cases declared with
    | nil => exact absurd rfl hp.2.1
    | cons d later =>
      rw [toList_render_declaring] at htext
      cases q with
      | bare body' => exact (render_bare_ne_declaring hq.1 htext.symm).elim
      | declaring withSpan' declared' body' =>
        cases declared' with
        | nil => exact absurd rfl hq.2.1
        | cons d' later' =>
          rw [toList_render_declaring] at htext
          obtain ⟨hd, hlater⟩ := List.forall_mem_cons.1 hp.2.2
          obtain ⟨hd', hlater'⟩ := List.forall_mem_cons.1 hq.2.2
          obtain ⟨hname, hrest⟩ := atom_append_inj hd.isAtom hd'.isAtom
            (stops_spacedNames _ _) (stops_spacedNames _ _) (List.append_cancel_left htext)
          obtain ⟨hnames, hbody⟩ := spacedNames_append_inj (List.forall_mem_map.2 hlater)
            (List.forall_mem_map.2 hlater') hrest
          refine ⟨?_, (Expr.render_append_inj hp.1 hq.1 (stops_paren []) (stops_paren [])
            (List.cons.inj hbody).2).1⟩
          show some (d.name :: _) = some (d'.name :: _)
          rw [String.toList_inj.1 hname, hnames]

end Program

/-! ## §5. What is parsed. -/

/-- A token that is scanned as a name is one. -/
theorem HasKind.isName {name : String} (h : HasKind name.toList .identifier) : IsName name := by
  generalize htext : name.toList = text at h
  cases h with
  | identifier letter word other =>
    refine ⟨_, _, htext, letter, word, ?_⟩
    rintro rfl
    exact other htext.symm
  | mark hm => simp [marks] at hm

theorem isName_of_mem_tokens {source : String} {t : Token} (ht : t ∈ tokens source)
    (hk : t.kind = .identifier) : IsName t.text :=
  (hk ▸ hasKind_of_mem_tokens ht).isName

theorem Expr.usedNames_parenthesized (parens : Span) (e : Expr) :
    (e.parenthesized parens).usedNames = e.usedNames := by
  cases e <;> rfl

/-- The variables of an expression come from tokens that are scanned as names. -/
theorem Salvages.exists_name {phrase : Phrase} {ts : List Token} {e : Expr}
    (h : Salvages phrase ts e) :
    ∀ name ∈ e.usedNames, ∃ t ∈ ts, t.kind = .identifier ∧ t.text = name := by
  induction h with
  | lost => exact List.forall_mem_nil _
  | @name t hk => exact List.forall_mem_singleton.2 ⟨t, List.mem_singleton_self t, hk, rfl⟩
  | number => exact List.forall_mem_nil _
  | parentheses _ _ _ ih =>
    intro name hname
    rw [Expr.usedNames_parenthesized] at hname
    obtain ⟨t, ht, hword⟩ := ih name hname
    exact ⟨t, by simp [ht], hword⟩
  | first _ ih => exact ih
  | extend _ _ _ ihl ihr =>
    intro name hname
    rcases List.mem_append.1 hname with hl | hr
    · obtain ⟨t, ht, hword⟩ := ihl name hl
      exact ⟨t, by simp [ht], hword⟩
    · obtain ⟨t, ht, hword⟩ := ihr name hr
      exact ⟨t, by simp [ht], hword⟩

theorem BuildsHeader.ne_nil {ts : List Token} {declared : List Declaration}
    (h : BuildsHeader ts declared) : declared ≠ [] := by
  cases h <;> exact List.cons_ne_nil _ _

/-- The names of a program that is salvaged from tokens of a source are names. -/
theorem SalvagesProgram.isLegible {ts : List Token} {p : Program} (h : SalvagesProgram ts p)
    (hn : ∀ t ∈ ts, t.kind = .identifier → IsName t.text) : p.IsLegible := by
  have hbody : ∀ {us : List Token} {e : Expr}, Salvages .sum us e → us ⊆ ts → e.IsLegible := by
    intro us e hsum hus name hname
    obtain ⟨t, ht, hk, rfl⟩ := hsum.exists_name name hname
    exact hn t (hus ht) hk
  cases h with
  | bare present hsum =>
    refine ⟨hbody hsum (List.Subset.refl _), ?_, List.forall_mem_nil _⟩
    simp [Program.names?]
  | @declaring opening us vs declared body hw hheader hsum =>
    refine ⟨hbody hsum fun v hv => by simp [hv], ?_, ?_⟩
    · simpa [Program.names?] using hheader.ne_nil
    · obtain ⟨names, hsub, hkind, rfl⟩ := hheader.exists_names
      refine List.forall_mem_map.2 fun t ht => hn t ?_ (hkind t ht)
      simp [hsub.subset ht]

/-- The variables of a program that is parsed, with or without errors, have names. -/
theorem isLegible_of_parse {source : String} {p : Program}
    (h : (parse source).program = some p) : p.IsLegible := by
  obtain ⟨us, rest, hsource, hp⟩ := exists_salvagesProgram h
  refine hp.isLegible ?_
  intro t ht hk
  have hmem : t ∈ tokens source := by
    rw [hsource]
    exact List.mem_append_left rest ht
  exact isName_of_mem_tokens hmem hk

/-! ## §6. Nothing is lost. -/

/-- **THE RENDERED FORM LOSES NOTHING.**  Let the programs of two sources, with or without
errors, be rendered alike.  Then they are the same but for places and the texts of numbers:
both declare or neither does, the names are the same in the same order, and so are the
operators, variables, values and holes of the expressions.  So the check finds the same
problems in the same order, up to their places, and in any session, on a console or on any
other runtime, the programs have the same value or, up to its place, the same failure, and
leave the same session. -/
theorem render_loses_nothing {s t : String} {p q : Program} (hp : (parse s).program = some p)
    (hq : (parse t).program = some q) (h : p.render = q.render) :
    p.unplaced.unspelled = q.unplaced.unspelled ∧
      (p.names? = q.names? ∧ p.body.shape.unspelled = q.body.shape.unspelled) ∧
      (check (some p)).map SemanticError.unplaced = (check (some q)).map SemanticError.unplaced ∧
      ∀ (σ : Type) [Runtime σ] (session : Session σ),
        (session.run p).1.mapError RuntimeError.unplaced =
            (session.run q).1.mapError RuntimeError.unplaced ∧
          (session.run p).2 = (session.run q).2 ∧
          (session.evaluate p).1.mapError RuntimeError.unplaced =
            (session.evaluate q).1.mapError RuntimeError.unplaced ∧
          (session.evaluate p).2 = (session.evaluate q).2 := by
  obtain ⟨hnames, hshape⟩ := Program.render_inj (isLegible_of_parse hp) (isLegible_of_parse hq) h
  refine ⟨Program.unspelled_unplaced_eq hnames hshape, ⟨hnames, hshape⟩,
    Program.problems_eq_of_shape hnames hshape, ?_⟩
  intro σ _ session
  obtain ⟨hrun, hevaluate⟩ := session.run_eq_of_shape hnames hshape
  exact ⟨(Prod.mk.inj hrun).1, (Prod.mk.inj hrun).2, (Prod.mk.inj hevaluate).1,
    (Prod.mk.inj hevaluate).2⟩

/-- In both programs the addition has no right operand, in one because of a sign that is
no number and in the other because it is left out; and they write their number in different
ways. -/
theorem render_loses_nothing_faulty :
    ∃ p q, (parse "with a,b:(a+#)*007").program = some p ∧
      (parse "with a , b : (a + ) * 7").program = some q ∧
      p ≠ q ∧ p.render = "(with (a b) (* (+ a <error>) 7))" ∧
      p.unplaced.unspelled = q.unplaced.unspelled ∧
      (check (some q)).map SemanticError.unplaced = [.missingOperand .add .nowhere] := by
  let p : Program := .declaring ⟨0, 4⟩ [⟨"a", ⟨5, 1⟩⟩, ⟨"b", ⟨7, 1⟩⟩]
    (.binary .mul ⟨14, 1⟩
      (.binary .add ⟨11, 1⟩ (.reference "a" ⟨10, 1⟩) .missing ⟨9, 5⟩)
      (.literal 7 "007" ⟨15, 3⟩) ⟨9, 9⟩)
  let q : Program := .declaring ⟨0, 4⟩ [⟨"a", ⟨5, 1⟩⟩, ⟨"b", ⟨9, 1⟩⟩]
    (.binary .mul ⟨20, 1⟩
      (.binary .add ⟨16, 1⟩ (.reference "a" ⟨14, 1⟩) .missing ⟨13, 6⟩)
      (.literal 7 "7" ⟨22, 1⟩) ⟨13, 10⟩)
  have hp : (parse "with a,b:(a+#)*007").program = some p := by decide +kernel
  have hq : (parse "with a , b : (a + ) * 7").program = some q := by decide +kernel
  have hrender : p.render = "(with (a b) (* (+ a <error>) 7))" := by decide +kernel
  have hrender' : q.render = "(with (a b) (* (+ a <error>) 7))" := by decide +kernel
  have hproblems : (check (some p)).map SemanticError.unplaced =
      [.missingOperand .add .nowhere] := by decide +kernel
  obtain ⟨hsame, -, hcheck, -⟩ := render_loses_nothing hp hq (hrender.trans hrender'.symm)
  exact ⟨p, q, hp, hq, by decide, hrender, hsame, hcheck.symm.trans hproblems⟩

end Calculator
