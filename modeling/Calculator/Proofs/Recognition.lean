/-
  Calculator.Proofs.Recognition
  ─────────────────────────────
  **READING ACCEPTS EXACTLY THE GRAMMAR.**

  What is read without an error derives from the grammar, and what derives from it with
  numbers in range is read without an error.  Both give the same shape, so that a source
  has at most one.

  The trees that tokens build stand between the two: reading makes exactly these
  (`parse_builds_iff`), the shape of each derives from its tokens (`Builds.derives`), and
  each derived shape is that of such a tree (`Derives.exists_builds`).

  Main statement: `parse_accepts_iff`.
-/
import Calculator.Proofs.Construction

namespace Calculator

variable {size : Nat}

/-! ## §1. Expressions. -/

/-- What tokens build derives from them, and the numbers among them are in range. -/
theorem Builds.derives {phrase : Phrase} {us : List Token} {e : Expr}
    (h : Builds phrase us e) (hd : ∀ t ∈ us, t.HasDecimal) :
    Derives phrase us e.shape ∧ ∀ t ∈ us, t.Fits := by
  induction h with
  | @name t hk =>
    refine ⟨.name hk, List.forall_mem_singleton.2 ?_⟩
    exact Token.fits_of_ne (by simp [hk])
  | @number t value hk hv =>
    obtain ⟨n, hn⟩ := hd t (List.mem_cons_self ..) hk
    obtain ⟨hle, hvalue⟩ := (Token.read?_eq_some_iff hn).1 hv
    refine ⟨?_, List.forall_mem_singleton.2 fun _ => ⟨n, hn, hle⟩⟩
    show Derives .factor [t] (.literal value.toInt t.text)
    rw [hvalue]
    exact .number hk hn
  | @parentheses opening closing ts e ho _ hc ih =>
    rw [List.forall_mem_cons, List.forall_mem_append] at hd
    obtain ⟨hder, hf⟩ := ih hd.2.1
    rw [Expr.shape_parenthesized]
    have hfo : opening.Fits := Token.fits_of_ne (by simp [ho])
    have hfc : closing.Fits := Token.fits_of_ne (by simp [hc])
    refine ⟨.parentheses ho hder hc, ?_⟩
    exact List.forall_mem_cons.2
      ⟨hfo, List.forall_mem_append.2 ⟨hf, List.forall_mem_singleton.2 hfc⟩⟩
  | first _ ih =>
    obtain ⟨hder, hf⟩ := ih hd
    exact ⟨hder.chain, hf⟩
  | extend _ hmark _ ihl ihr =>
    rw [List.forall_mem_append, List.forall_mem_cons] at hd
    obtain ⟨hl, hfl⟩ := ihl hd.1
    obtain ⟨hr, hfr⟩ := ihr hd.2.2
    refine ⟨hl.extend hmark hr, ?_⟩
    rw [List.forall_mem_append, List.forall_mem_cons]
    exact ⟨hfl, Layer.fits_of_operator? hmark, hfr⟩

/-- Tokens that derive a shape, with numbers in range, build an expression of it. -/
theorem Derives.exists_builds {phrase : Phrase} {us : List Token} {s : Shape}
    (h : Derives phrase us s) (hf : ∀ t ∈ us, t.Fits) :
    ∃ e, Builds phrase us e ∧ e.shape = s := by
  induction h with
  | @name t hk => exact ⟨.reference t.text t.span, .name hk, rfl⟩
  | @number t n hk hn =>
    obtain ⟨m, hm, hle⟩ := hf t (List.mem_cons_self ..) hk
    obtain ⟨v, hv, hvalue⟩ := Token.read?_isSome hm hle
    have hmn : m = n := Option.some.inj (hm.symm.trans hn)
    refine ⟨.literal v t.text t.span, .number hk hv, ?_⟩
    rw [Expr.shape, hvalue, hmn]
  | parentheses ho _ hc ih =>
    rw [List.forall_mem_cons, List.forall_mem_append] at hf
    obtain ⟨e, he, hs⟩ := ih hf.2.1
    exact ⟨_, .parentheses ho he hc, by rw [Expr.shape_parenthesized, hs]⟩
  | product _ ih =>
    obtain ⟨e, he, hs⟩ := ih hf
    have hchain : Builds Layer.product.phrase _ e := .first he
    exact ⟨e, hchain, hs⟩
  | times _ hmark _ ihl ihr =>
    rw [List.forall_mem_append, List.forall_mem_cons] at hf
    obtain ⟨l, (hl : Builds Layer.product.phrase _ l), hls⟩ := ihl hf.1
    obtain ⟨r, (hr : Builds Layer.product.operand _ r), hrs⟩ := ihr hf.2.2
    have hchain := Builds.extend hl (Layer.operator?_product_eq_some_iff.2 hmark) hr
    exact ⟨_, hchain, by rw [Expr.shape_ofOperands, hls, hrs]⟩
  | sum _ ih =>
    obtain ⟨e, he, hs⟩ := ih hf
    have hchain : Builds Layer.sum.phrase _ e := .first he
    exact ⟨e, hchain, hs⟩
  | plus _ hmark _ ihl ihr =>
    rw [List.forall_mem_append, List.forall_mem_cons] at hf
    obtain ⟨l, (hl : Builds Layer.sum.phrase _ l), hls⟩ := ihl hf.1
    obtain ⟨r, (hr : Builds Layer.sum.operand _ r), hrs⟩ := ihr hf.2.2
    have hchain := Builds.extend hl (Layer.operator?_sum_eq_some_iff.2 hmark) hr
    exact ⟨_, hchain, by rw [Expr.shape_ofOperands, hls, hrs]⟩

/-! ## §2. Declarations. -/

/-- Declared variables that tokens build derive from them with their names. -/
theorem BuildsHeader.declares {us : List Token} {declared : List Declaration}
    (h : BuildsHeader us declared) :
    Declares us (declared.map Declaration.name) ∧ ∀ t ∈ us, t.Fits := by
  induction h with
  | @last name mark hn hc =>
    refine ⟨.last hn hc, ?_⟩
    simp [Token.fits_of_ne, hn, hc]
  | @more name mark ts declared hn hm _ ih =>
    refine ⟨.more hn hm ih.1, ?_⟩
    simpa [Token.fits_of_ne, hn, hm] using ih.2

/-- Tokens that derive declared names build variables of these names. -/
theorem Declares.exists_builds {us : List Token} {names : List String} (h : Declares us names) :
    ∃ declared, BuildsHeader us declared ∧ declared.map Declaration.name = names := by
  induction h with
  | @last name mark hn hc => exact ⟨[⟨name.text, name.span⟩], .last hn hc, rfl⟩
  | @more name mark ts names hn hm _ ih =>
    obtain ⟨declared, hbuilds, hnames⟩ := ih
    exact ⟨⟨name.text, name.span⟩ :: declared, .more hn hm hbuilds, by rw [List.map_cons, hnames]⟩

/-! ## §3. Programs. -/

/-- A program that tokens build derives from them. -/
theorem BuildsProgram.derivesProgram {us : List Token} {p : Program} (h : BuildsProgram us p)
    (hd : ∀ t ∈ us, t.HasDecimal) :
    DerivesProgram us p.names? p.body.shape ∧ ∀ t ∈ us, t.Fits := by
  cases h with
  | bare _ hs =>
    obtain ⟨hder, hf⟩ := hs.derives hd
    exact ⟨.bare hder, hf⟩
  | declaring hw hh hs =>
    rw [List.forall_mem_cons, List.forall_mem_append] at hd
    obtain ⟨hdeclares, hfh⟩ := hh.declares
    obtain ⟨hder, hfs⟩ := hs.derives hd.2.2
    refine ⟨.declaring hw hdeclares hder, ?_⟩
    exact List.forall_mem_cons.2
      ⟨Token.fits_of_ne (by simp [hw]), List.forall_mem_append.2 ⟨hfh, hfs⟩⟩

/-- What is read of tokens without an error is a program that derives from them. -/
theorem ReadsUnit.derivesProgram {ts rest : List Token} {program : Option Program}
    {events : List Event} (h : ReadsUnit size ts program rest events)
    (hd : ∀ t ∈ ts, t.HasDecimal) (he : errorsOf events = []) :
    ∃ us p, ts = us ++ rest ∧ program = some p ∧ DerivesProgram us p.names? p.body.shape ∧
      ∀ t ∈ us, t.Fits := by
  obtain ⟨us, p, rfl, hp, hbuilds⟩ := h.builds he
  obtain ⟨hder, hf⟩ := hbuilds.derivesProgram (List.forall_mem_append.1 hd).1
  exact ⟨us, p, rfl, hp, hder, hf⟩

/-- Tokens that derive a program, with numbers in range, build one. -/
theorem DerivesProgram.exists_builds {ts : List Token} {names : Option (List String)}
    {s : Shape} (h : DerivesProgram ts names s) (hf : ∀ t ∈ ts, t.Fits) :
    ∃ p, BuildsProgram ts p ∧ p.names? = names ∧ p.body.shape = s := by
  cases h with
  | bare hs =>
    obtain ⟨body, hbody, hshape⟩ := hs.exists_builds hf
    exact ⟨.bare body hbody.ne_missing, .bare hbody.ne_missing hbody, rfl, hshape⟩
  | declaring hw hh hs =>
    rw [List.forall_mem_cons, List.forall_mem_append] at hf
    obtain ⟨declared, hdeclared, hnames⟩ := hh.exists_builds
    obtain ⟨body, hbody, hshape⟩ := hs.exists_builds hf.2.2
    refine ⟨_, .declaring hw hdeclared hbody, ?_, hshape⟩
    rw [Program.names?, hnames]

/-! ## §4. Sources. -/

/-- A source without errors is a sentence, and its program derives from it. -/
theorem derivesProgram_of_errors_eq_nil {source : String} (h : (parse source).errors = []) :
    ∃ p, (parse source).program = some p ∧
      DerivesProgram (tokens source) p.names? p.body.shape ∧ ∀ t ∈ tokens source, t.Fits := by
  obtain ⟨p, hp, hbuilds⟩ := exists_builds_of_errors_eq_nil h
  have hd : ∀ t ∈ tokens source, t.HasDecimal := by
    intro t ht
    exact hasDecimal_of_mem_tokensFrom ht
  exact ⟨p, hp, hbuilds.derivesProgram hd⟩

/-- What derives from a source, with numbers in range, is read of it without an error. -/
theorem parse_of_derivesProgram {source : String} {names : Option (List String)} {e : Shape}
    (h : DerivesProgram (tokens source) names e) (hf : ∀ t ∈ tokens source, t.Fits) :
    (parse source).errors = [] ∧
      ∃ p, (parse source).program = some p ∧ p.names? = names ∧ p.body.shape = e := by
  obtain ⟨p, hbuilds, hnames, hshape⟩ := h.exists_builds hf
  obtain ⟨he, hp⟩ := parse_builds_iff.2 hbuilds
  exact ⟨he, p, hp, hnames, hshape⟩

/-- A derived program declares names exactly if it starts with the word `with`. -/
theorem DerivesProgram.isSome_names_iff {ts : List Token} {names : Option (List String)}
    {e : Shape} (h : DerivesProgram ts names e) :
    names.isSome = true ↔ ts.head?.map Token.kind = some .withKeyword := by
  cases h with
  | bare hs =>
    obtain ⟨t, us, rfl, hk⟩ := hs.exists_cons
    constructor
    · intro h
      cases h
    · intro h
      have hw : t.kind = .withKeyword := by simpa using h
      rw [hw] at hk
      cases hk
  | declaring hw => simp [hw]

/-- **READING ACCEPTS EXACTLY THE GRAMMAR AND BUILDS EXACTLY ITS TREE.**  A source
is read without an error exactly if its tokens derive a program whose numbers are in
range; then there is a program, it derives from the tokens, nothing else does, and it
declares names exactly if the source starts with the word `with`. -/
theorem parse_accepts_iff (source : String) :
    ((parse source).errors = [] ↔ IsSentence (tokens source)) ∧
      ((parse source).errors = [] →
        ∃ p, (parse source).program = some p ∧
          DerivesProgram (tokens source) p.names? p.body.shape ∧
          (∀ names e, DerivesProgram (tokens source) names e →
            names = p.names? ∧ e = p.body.shape) ∧
          (p.names?.isSome = true ↔
            (tokens source).head?.map Token.kind = some .withKeyword)) := by
  refine ⟨⟨?_, ?_⟩, ?_⟩
  · intro h
    obtain ⟨p, -, hder, hf⟩ := derivesProgram_of_errors_eq_nil h
    exact ⟨⟨_, _, hder⟩, hf⟩
  · rintro ⟨⟨names, e, hder⟩, hf⟩
    exact (parse_of_derivesProgram hder hf).1
  · intro h
    obtain ⟨p, hp, hder, hf⟩ := derivesProgram_of_errors_eq_nil h
    refine ⟨p, hp, hder, ?_, hder.isSome_names_iff⟩
    intro names e hother
    -- both derivations are read, and reading has one result
    obtain ⟨-, q, hq, hn, hb⟩ := parse_of_derivesProgram hother hf
    cases hp.symm.trans hq
    exact ⟨hn.symm, hb.symm⟩

/-- A program with a declaration, a parenthesis and a number with a leading zero. -/
theorem parse_accepts_declaring :
    IsSentence (tokens "with a: (1 + a) * 02") ∧
      ∃ p, (parse "with a: (1 + a) * 02").program = some p ∧
        DerivesProgram (tokens "with a: (1 + a) * 02") p.names? p.body.shape ∧
        (∀ names e, DerivesProgram (tokens "with a: (1 + a) * 02") names e →
          names = p.names? ∧ e = p.body.shape) ∧
        (p.names?.isSome = true ↔
          (tokens "with a: (1 + a) * 02").head?.map Token.kind = some .withKeyword) :=
  have h : (parse "with a: (1 + a) * 02").errors = [] := by decide +kernel
  ⟨(parse_accepts_iff _).1.1 h, (parse_accepts_iff _).2 h⟩

end Calculator
