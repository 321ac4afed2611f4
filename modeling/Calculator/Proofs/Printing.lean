/-
  Calculator.Proofs.Printing
  ──────────────────────────
  **READING UNDOES PRINTING.**

  A program is printed as words (`Program.words`): operators between their operands, and
  parentheses only where the grammar would otherwise group in another way.  Between the
  words stands any layout (`Spaced`).

  What is printed is read in two steps.  Scanning finds the words again, since no two
  neighbours run together: one of them is always a mark, or it is the word `with`, behind
  which layout must stand (`Spaced.scans`).  And words that a program is printed as derive
  from the grammar, each operand from the phrase that its place asks for
  (`Expr.derives_words`).

  Main statement: `parse_printed`.
-/
import Mathlib.Data.List.Chain
import Calculator.Proofs.Partition
import Calculator.Proofs.Recognition

namespace Calculator

open Text (width)

/-! ## §1. Printing. -/

/-- The layer of the operator. -/
def Operator.layer : Operator → Layer
  | add => .sum
  | sub => .sum
  | mul => .product
  | div => .product

/-- Whether the first operator binds weaker than the second. -/
def Operator.isWeaker (op other : Operator) : Bool := op.layer = .sum && other.layer = .product

/-- The words, in parentheses where they are needed. -/
def enclosed (needed : Bool) (words : List String) : List String :=
  if needed then "(" :: (words ++ [")"]) else words

namespace Expr

/-- Whether the expression needs parentheses to be a left operand of `op`: its own
operator binds weaker. -/
def enclosedLeft (op : Operator) : Expr → Bool
  | binary inner _ _ _ _ => inner.isWeaker op
  | missing => false
  | literal _ _ _ => false
  | reference _ _ => false

/-- Whether the expression needs parentheses to be a right operand of `op`: its own
operator does not bind tighter. -/
def enclosedRight (op : Operator) : Expr → Bool
  | binary inner _ _ _ _ => !op.isWeaker inner
  | missing => false
  | literal _ _ _ => false
  | reference _ _ => false

/-- The words that the expression is printed as. -/
def words : Expr → List String
  | missing => []
  | literal value _ _ => [Number.write value]
  | reference name _ => [name]
  | binary op _ left right _ =>
    enclosed (left.enclosedLeft op) left.words ++
      op.symbol :: enclosed (right.enclosedRight op) right.words

end Expr

/-- The words that the program is printed as. -/
def Program.words : Program → List String
  | .bare body _ => body.words
  | .declaring _ declared body =>
    "with" :: ((declared.map Declaration.name).intersperse "," ++ ":" :: body.words)

/-- The text is the words in order, with layout anywhere between and around them; behind
the word `with` there is some. -/
inductive Spaced : List String → List Char → Prop where
  /-- Only layout is left. -/
  | done {gap : List Char} (layout : IsGap gap) : Spaced [] gap
  /-- Layout, then the next word. -/
  | word {gap text : List Char} {word : String} {later : List String} (layout : IsGap gap)
      (apart : word = "with" → ∃ c ∈ text.head?, isLayout c = true)
      (rest : Spaced later text) : Spaced (word :: later) (gap ++ (word.toList ++ text))

/-! ## §2. What can be printed. -/

/-- A name: letters and digits, the first a letter, and not the word `with`. -/
def IsName (name : String) : Prop :=
  ∃ c cs, name.toList = c :: cs ∧ c.isAlpha = true ∧ (∀ d ∈ cs, d.isAlphanum = true) ∧
    name ≠ "with"

/-- Nothing is missing, the variables have names, and no number is negative. -/
def Expr.IsPrintable : Expr → Prop
  | missing => False
  | literal value _ _ => 0 ≤ value.toInt
  | reference name _ => IsName name
  | binary _ _ left right _ => left.IsPrintable ∧ right.IsPrintable

/-- The expression can be printed, and so can the names of a declaration, of which there
is at least one. -/
def Program.IsPrintable : Program → Prop
  | .bare body _ => body.IsPrintable
  | .declaring _ declared body =>
    declared ≠ [] ∧ (∀ d ∈ declared, IsName d.name) ∧ body.IsPrintable

/-! ## §3. Words that do not run together. -/

/-- The text is one character that is neither a letter nor a digit. -/
def IsMark (word : String) : Prop :=
  ∃ c, word.toList = [c] ∧ c.isAlphanum = false ∧ isLayout c = false

/-- The words can stand side by side, or layout stands between them anyway. -/
def Separate (word next : String) : Prop := word = "with" ∨ Closed word.toList next.toList

/-- Words that a text of tokens can be made of. -/
structure AreWords (words : List String) : Prop where
  isWord : ∀ word ∈ words, IsWord word.toList
  separate : words.IsChain Separate

theorem joins_eq_false {c d : Char} (h : c.isAlphanum = false ∨ d.isAlphanum = false) :
    joins c d = false := by
  apply Bool.eq_false_iff.2
  intro hj
  rcases h with hc | hd
  · simp only [Char.isAlphanum, Bool.or_eq_false_iff] at hc
    simp [joins, hc] at hj
  · rw [isAlphanum_of_joins hj] at hd
    cases hd

theorem IsMark.separate_left {mark : String} (h : IsMark mark) (word : String) :
    Separate mark word := by
  obtain ⟨c, hm, hc, -⟩ := h
  right
  intro a ha d _
  rw [hm] at ha
  cases ha
  exact joins_eq_false (.inl hc)

theorem IsMark.separate_right {mark : String} (h : IsMark mark) (word : String) :
    Separate word mark := by
  obtain ⟨c, hm, hc, -⟩ := h
  right
  intro a _ d hd
  rw [hm] at hd
  cases hd
  exact joins_eq_false (.inr hc)

theorem IsMark.isWord {mark : String} (h : IsMark mark) : IsWord mark.toList := by
  obtain ⟨c, hm, -, hl⟩ := h
  rw [hm]
  exact ⟨hl, by simp⟩

theorem areWords_nil : AreWords [] := ⟨by simp, .nil⟩

theorem areWords_singleton {word : String} (h : IsWord word.toList) : AreWords [word] :=
  ⟨List.forall_mem_singleton.2 h, .singleton word⟩

/-- A mark keeps the words on its two sides apart. -/
theorem AreWords.append_mark {before after : List String} {mark : String}
    (hb : AreWords before) (hm : IsMark mark) (ha : AreWords after) :
    AreWords (before ++ mark :: after) where
  isWord := by
    rw [List.forall_mem_append, List.forall_mem_cons]
    exact ⟨hb.isWord, hm.isWord, ha.isWord⟩
  separate := by
    rw [List.isChain_append, List.isChain_cons]
    refine ⟨hb.separate, ⟨?_, ha.separate⟩, ?_⟩
    · intro word _
      exact hm.separate_left word
    · rintro word - next hnext
      cases hnext
      exact hm.separate_right word

theorem isMark_symbol (op : Operator) : IsMark op.symbol := by
  cases op with
  | add => exact ⟨'+', rfl, by decide, by decide⟩
  | sub => exact ⟨'-', rfl, by decide, by decide⟩
  | mul => exact ⟨'*', rfl, by decide, by decide⟩
  | div => exact ⟨'/', rfl, by decide, by decide⟩

theorem AreWords.enclosed {words : List String} (h : AreWords words) (needed : Bool) :
    AreWords (enclosed needed words) := by
  cases needed with
  | false => exact h
  | true =>
    have hopen : IsMark "(" := ⟨'(', rfl, by decide, by decide⟩
    have hclose : IsMark ")" := ⟨')', rfl, by decide, by decide⟩
    exact areWords_nil.append_mark hopen (h.append_mark hclose areWords_nil)

/-! ## §4. Scanning what is printed. -/

/-- A word is closed in front of words that it does not run into, whatever layout stands
between them. -/
theorem Spaced.closed {words : List String} {text : List Char} (h : Spaced words text)
    (hw : ∀ next ∈ words, IsWord next.toList) {word : List Char}
    (hc : ∀ next ∈ words.head?, Closed word next.toList) : Closed word text := by
  cases h with
  | done hl =>
    cases text with
    | nil =>
      intro a _ d hd
      cases hd
    | cons c gap => exact closed_of_isLayout gap (hl c (List.mem_cons_self ..))
  | @word gap text next later hl _ _ =>
    cases gap with
    | cons c gap => exact closed_of_isLayout _ (hl c (List.mem_cons_self ..))
    | nil =>
      obtain ⟨d, cs, hd⟩ :=
        List.exists_cons_of_ne_nil (hw next (List.mem_cons_self ..)).ne_nil
      have hnext := hc next rfl
      rw [hd] at hnext ⊢
      exact hnext

/-- Scanning finds the words that a text is made of. -/
theorem Spaced.scans {words : List String} {text : List Char} (h : Spaced words text)
    (hw : AreWords words) (offset : Nat) :
    ∃ ts, Scans offset text ts ∧ ts.map Token.text = words := by
  induction h generalizing offset with
  | done hl => exact ⟨[], .done hl, rfl⟩
  | @word gap text word later hl happart hrest ih =>
    obtain ⟨hword, hlater⟩ := List.forall_mem_cons.1 hw.isWord
    obtain ⟨hseparate, hchain⟩ := List.isChain_cons.1 hw.separate
    obtain ⟨ts, hts, hmap⟩ :=
      ih ⟨hlater, hchain⟩ (offset + width gap + width word.toList)
    have hclosed : Closed word.toList text := by
      by_cases hwith : word = "with"
      · obtain ⟨c, hc, hlayout⟩ := happart hwith
        obtain ⟨cs, rfl⟩ := List.head?_eq_some_iff.1 hc
        exact closed_of_isLayout cs hlayout
      · apply hrest.closed hlater
        intro next hnext
        exact (hseparate next hnext).resolve_left hwith
    refine ⟨_, .word hl hword hclosed hts, ?_⟩
    rw [List.map_cons, hmap, Token.text_ofText, String.ofList_toList]

/-! ## §5. Deriving what is printed. -/

/-- The tokens have the words as their texts, and the kinds of these. -/
structure Spells (ts : List Token) (words : List String) : Prop where
  text : ts.map Token.text = words
  kind : ∀ t ∈ ts, t.kind = .ofText t.text.toList

theorem Scans.kind_eq {offset : Nat} {cs : List Char} {ts : List Token}
    (h : Scans offset cs ts) : ∀ t ∈ ts, t.kind = .ofText t.text.toList := by
  induction h with
  | done => simp
  | word _ _ _ _ ih => exact List.forall_mem_cons.2 ⟨by simp, ih⟩

theorem Spells.uncons {ts : List Token} {word : String} {words : List String}
    (h : Spells ts (word :: words)) :
    ∃ t us, ts = t :: us ∧ t.text = word ∧ t.kind = .ofText word.toList ∧ Spells us words := by
  obtain ⟨t, us, rfl, rfl, hus⟩ := List.map_eq_cons_iff.1 h.text
  obtain ⟨ht, hkind⟩ := List.forall_mem_cons.1 h.kind
  exact ⟨t, us, rfl, rfl, ht, hus, hkind⟩

theorem Spells.of_append {ts : List Token} {before after : List String}
    (h : Spells ts (before ++ after)) :
    ∃ us vs, ts = us ++ vs ∧ Spells us before ∧ Spells vs after := by
  obtain ⟨us, vs, rfl, hus, hvs⟩ := List.map_eq_append_iff.1 h.text
  obtain ⟨hu, hv⟩ := List.forall_mem_append.1 h.kind
  exact ⟨us, vs, rfl, ⟨hus, hu⟩, ⟨hvs, hv⟩⟩

theorem Spells.of_singleton {ts : List Token} {word : String} (h : Spells ts [word]) :
    ∃ t, ts = [t] ∧ t.text = word ∧ t.kind = .ofText word.toList := by
  obtain ⟨t, us, rfl, ht, hkind, hus⟩ := h.uncons
  rw [List.map_eq_nil_iff.1 hus.text]
  exact ⟨t, rfl, ht, hkind⟩

/-- The tokens derive from the phrase and mean the expression, its number texts apart;
the numbers among them are in range. -/
def Means (phrase : Phrase) (ts : List Token) (e : Expr) : Prop :=
  ∃ s, Derives phrase ts s ∧ s.unspelled = e.shape.unspelled ∧ ∀ t ∈ ts, t.Fits

/-- How loosely a phrase holds together. -/
def Phrase.looseness : Phrase → Nat
  | factor => 0
  | product => 1
  | sum => 2

/-- What derives from a phrase derives from every looser one. -/
theorem Derives.loosen {phrase looser : Phrase} {ts : List Token} {e : Shape}
    (h : Derives phrase ts e) (hle : phrase.looseness ≤ looser.looseness) :
    Derives looser ts e := by
  cases phrase with
  | factor =>
    cases looser with
    | factor => exact h
    | product => exact .product h
    | sum => exact .sum (.product h)
  | product =>
    cases looser with
    | factor => exact absurd hle (by decide)
    | product => exact h
    | sum => exact .sum h
  | sum =>
    cases looser with
    | factor => exact absurd hle (by decide)
    | product => exact absurd hle (by decide)
    | sum => exact h

/-- The tightest phrase that the words of an expression derive from. -/
def Expr.phrase : Expr → Phrase
  | binary op _ _ _ _ => op.layer.phrase
  | missing => .factor
  | literal _ _ _ => .factor
  | reference _ _ => .factor

/-- Where parentheses are left out, a left operand is no looser than a chain of the
operator's layer. -/
theorem Expr.looseness_of_enclosedLeft {op : Operator} {e : Expr}
    (h : e.enclosedLeft op = false) : e.phrase.looseness ≤ op.layer.phrase.looseness := by
  cases e with
  | binary inner =>
    change inner.isWeaker op = false at h
    show inner.layer.phrase.looseness ≤ _
    revert h
    cases op <;> cases inner <;> decide
  | missing => exact Nat.zero_le _
  | literal => exact Nat.zero_le _
  | reference => exact Nat.zero_le _

/-- Where parentheses are left out, a right operand is no looser than an operand of the
operator's layer. -/
theorem Expr.looseness_of_enclosedRight {op : Operator} {e : Expr}
    (h : e.enclosedRight op = false) : e.phrase.looseness ≤ op.layer.operand.looseness := by
  cases e with
  | binary inner =>
    change (!op.isWeaker inner) = false at h
    show inner.layer.phrase.looseness ≤ _
    revert h
    cases op <;> cases inner <;> decide
  | missing => exact Nat.zero_le _
  | literal => exact Nat.zero_le _
  | reference => exact Nat.zero_le _

/-- Parentheses make a factor of any expression; without them it must be tight enough by
itself. -/
theorem means_enclosed {e : Expr} {words : List String} {needed : Bool} {phrase : Phrase}
    (he : ∀ ts, Spells ts words → Means e.phrase ts e)
    (ht : needed = false → e.phrase.looseness ≤ phrase.looseness) {ts : List Token}
    (h : Spells ts (enclosed needed words)) : Means phrase ts e := by
  cases needed with
  | false =>
    obtain ⟨s, hder, hs, hf⟩ := he ts h
    exact ⟨s, hder.loosen (ht rfl), hs, hf⟩
  | true =>
    obtain ⟨opening, us, rfl, -, ho, hus⟩ := h.uncons
    obtain ⟨vs, ws, rfl, hvs, hws⟩ := hus.of_append
    obtain ⟨closing, rfl, -, hc⟩ := hws.of_singleton
    obtain ⟨s, hder, hs, hf⟩ := he vs hvs
    have hsum : Derives .sum vs s := hder.loosen (by cases e.phrase <;> decide)
    have hfactor : Derives .factor (opening :: (vs ++ [closing])) s :=
      .parentheses ho hsum hc
    refine ⟨s, hfactor.loosen (Nat.zero_le _), hs, ?_⟩
    have hfo : opening.Fits := Token.fits_of_ne (by rw [ho]; decide)
    have hfc : closing.Fits := Token.fits_of_ne (by rw [hc]; decide)
    exact List.forall_mem_cons.2
      ⟨hfo, List.forall_mem_append.2 ⟨hf, List.forall_mem_singleton.2 hfc⟩⟩

/-- The mark of an operator is one of its layer. -/
theorem operator?_ofText_symbol (op : Operator) :
    op.layer.operator? (.ofText op.symbol.toList) = some op := by
  cases op <;> decide

theorem IsName.hasKind {name : String} (h : IsName name) : HasKind name.toList .identifier := by
  obtain ⟨c, cs, hname, hc, hcs, hwith⟩ := h
  rw [hname]
  refine .identifier hc hcs ?_
  intro hw
  apply hwith
  rw [← String.ofList_toList (s := name), hname, hw]

/-- A text of some kind that starts with a letter or a digit is a word. -/
theorem HasKind.isWord_of_isAlphanum {c : Char} {cs : List Char} {kind : TokenKind}
    (h : HasKind (c :: cs) kind) (hc : c.isAlphanum = true) : IsWord (c :: cs) := by
  refine h.isWord (List.cons_ne_nil c cs) ?_
  intro d hd
  cases hd
  exact isLayout_of_isAlphanum hc

theorem IsName.isWord {name : String} (h : IsName name) : IsWord name.toList := by
  have hkind := h.hasKind
  obtain ⟨c, cs, hname, hc, -⟩ := h
  rw [hname] at hkind ⊢
  exact hkind.isWord_of_isAlphanum (by simp [Char.isAlphanum, hc])

/-- A number that is not negative is written in digits only. -/
theorem exists_digits_of_nonneg {v : Int32} (h : 0 ≤ v.toInt) :
    (Number.write v).toList = Nat.toDigits 10 v.toInt.toNat ∧
      ∃ c cs, Nat.toDigits 10 v.toInt.toNat = c :: cs ∧ ∀ d ∈ c :: cs, d.isDigit = true := by
  have hneg : ¬v.toInt < 0 := by omega
  have habs : v.toInt.natAbs = v.toInt.toNat := by omega
  have hdigits : ∀ c ∈ Nat.toDigits 10 v.toInt.toNat, c.isDigit = true :=
    fun c hc => Nat.isDigit_of_mem_toDigits (by decide) (by decide) hc
  have hne : Nat.toDigits 10 v.toInt.toNat ≠ [] := Nat.toDigits_ne_nil
  obtain ⟨c, cs, hcs⟩ := List.exists_cons_of_ne_nil hne
  refine ⟨?_, c, cs, hcs, hcs ▸ hdigits⟩
  rw [Number.write, if_neg hneg, habs, Nat.toList_repr]

theorem hasKind_write {v : Int32} (h : 0 ≤ v.toInt) :
    HasKind (Number.write v).toList .number := by
  obtain ⟨hwrite, c, cs, hcs, hdigits⟩ := exists_digits_of_nonneg h
  rw [hwrite, hcs]
  exact .number hdigits

theorem isWord_write {v : Int32} (h : 0 ≤ v.toInt) : IsWord (Number.write v).toList := by
  have hkind := hasKind_write h
  obtain ⟨hwrite, c, cs, hcs, hdigits⟩ := exists_digits_of_nonneg h
  rw [hwrite, hcs] at hkind ⊢
  have hc : c.isDigit = true := hdigits c (List.mem_cons_self ..)
  exact hkind.isWord_of_isAlphanum (by simp [Char.isAlphanum, hc])

/-- A token with the text of a number that is not negative has its value. -/
theorem decimal?_of_text_write {v : Int32} (h : 0 ≤ v.toInt) {t : Token}
    (ht : t.text = Number.write v) : t.decimal? = some v.toInt.toNat := by
  rw [Token.decimal?, ht, (exists_digits_of_nonneg h).1, Number.ofDigits?_toDigits]

/-- The words of an expression can stand in a text. -/
theorem Expr.areWords {e : Expr} (h : e.IsPrintable) : AreWords e.words := by
  induction e with
  | missing => exact h.elim
  | literal => exact areWords_singleton (isWord_write h)
  | reference => exact areWords_singleton (IsName.isWord h)
  | binary op opSpan left right span ihl ihr =>
    exact ((ihl h.1).enclosed _).append_mark (isMark_symbol op) ((ihr h.2).enclosed _)

/-- Tokens that spell an expression mean it. -/
theorem Expr.derives_words {e : Expr} (h : e.IsPrintable) {ts : List Token}
    (ht : Spells ts e.words) : Means e.phrase ts e := by
  induction e generalizing ts with
  | missing => exact h.elim
  | literal v text span =>
    obtain ⟨t, rfl, htext, hkind⟩ := ht.of_singleton
    rw [← (hasKind_write h).eq_ofText] at hkind
    have hdecimal := decimal?_of_text_write h htext
    have hvalue : (v.toInt.toNat : Int) = v.toInt := Int.toNat_of_nonneg h
    refine ⟨_, .number hkind hdecimal, ?_, List.forall_mem_singleton.2 ?_⟩
    · rw [hvalue]
      rfl
    · have hlt := v.toInt_lt
      exact fun _ => ⟨_, hdecimal, by omega⟩
  | reference name span =>
    obtain ⟨t, rfl, htext, hkind⟩ := ht.of_singleton
    rw [← (IsName.hasKind h).eq_ofText] at hkind
    refine ⟨_, .name hkind, by rw [htext]; rfl, List.forall_mem_singleton.2 ?_⟩
    exact Token.fits_of_ne (by simp [hkind])
  | binary op opSpan left right span ihl ihr =>
    obtain ⟨us, ws, rfl, hus, hws⟩ := ht.of_append
    obtain ⟨t, vs, rfl, -, hkind, hvs⟩ := hws.uncons
    have hmark : op.layer.operator? t.kind = some op := by rw [hkind, operator?_ofText_symbol]
    obtain ⟨l, hl, hls, hlf⟩ :=
      means_enclosed (fun _ => ihl h.1) left.looseness_of_enclosedLeft hus
    obtain ⟨r, hr, hrs, hrf⟩ :=
      means_enclosed (fun _ => ihr h.2) right.looseness_of_enclosedRight hvs
    refine ⟨_, hl.extend hmark hr, ?_, ?_⟩
    · rw [Shape.unspelled, hls, hrs]
      rfl
    · rw [List.forall_mem_append, List.forall_mem_cons]
      exact ⟨hlf, Layer.fits_of_operator? hmark, hrf⟩

/-! ## §6. Programs. -/

/-- Names with commas between them and a colon behind them keep apart from what
follows. -/
theorem areWords_header {names after : List String} (hn : ∀ name ∈ names, IsName name)
    (ha : AreWords after) : AreWords (names.intersperse "," ++ ":" :: after) := by
  have hcomma : IsMark "," := ⟨',', rfl, by decide, by decide⟩
  have hcolon : IsMark ":" := ⟨':', rfl, by decide, by decide⟩
  induction names with
  | nil => exact areWords_nil.append_mark hcolon ha
  | cons name names ih =>
    obtain ⟨hname, hnames⟩ := List.forall_mem_cons.1 hn
    have hsingle := areWords_singleton hname.isWord
    cases names with
    | nil => exact hsingle.append_mark hcolon ha
    | cons next names => exact hsingle.append_mark hcomma (ih hnames)

/-- Tokens that spell a name and then a mark start with a variable. -/
theorem Spells.uncons_name {ts : List Token} {name mark : String} {words : List String}
    (hn : IsName name) (h : Spells ts (name :: mark :: words)) :
    ∃ t m us, ts = t :: m :: us ∧ t.text = name ∧ t.kind = .identifier ∧
      m.kind = .ofText mark.toList ∧ Spells us words := by
  obtain ⟨t, us, rfl, ht, hk, hus⟩ := h.uncons
  obtain ⟨m, vs, rfl, -, hm, hvs⟩ := hus.uncons
  exact ⟨t, m, vs, rfl, ht, hk.trans hn.hasKind.eq_ofText.symm, hm, hvs⟩

/-- Tokens that spell names with commas between them and a colon behind them declare the
names. -/
theorem declares_header {names : List String} (hne : names ≠ [])
    (hn : ∀ name ∈ names, IsName name) {ts : List Token} {after : List String}
    (ht : Spells ts (names.intersperse "," ++ ":" :: after)) :
    ∃ us vs, ts = us ++ vs ∧ Declares us names ∧ (∀ t ∈ us, t.Fits) ∧ Spells vs after := by
  induction names generalizing ts with
  | nil => exact absurd rfl hne
  | cons name names ih =>
    obtain ⟨hname, hnames⟩ := List.forall_mem_cons.1 hn
    -- in either case a name comes first, then a mark
    cases names with
    | nil =>
      obtain ⟨t, mark, vs, rfl, rfl, hk, hmark, hvs⟩ := ht.uncons_name hname
      have hcolon : mark.kind = .colon := hmark
      refine ⟨[t, mark], vs, rfl, .last hk hcolon, ?_, hvs⟩
      simp [Token.fits_of_ne, hk, hcolon]
    | cons next names =>
      obtain ⟨t, mark, vs, rfl, rfl, hk, hmark, hvs⟩ := ht.uncons_name hname
      have hcomma : mark.kind = .comma := hmark
      obtain ⟨us, vs, rfl, hus, hf, hvs⟩ := ih (List.cons_ne_nil next names) hnames hvs
      refine ⟨t :: mark :: us, vs, rfl, .more hk hcomma hus, ?_, hvs⟩
      simpa [Token.fits_of_ne, hk, hcomma] using hf

/-- The words of a program can stand in a text. -/
theorem Program.areWords {p : Program} (h : p.IsPrintable) : AreWords p.words := by
  cases p with
  | bare body => exact Expr.areWords h
  | declaring withSpan declared body =>
    obtain ⟨hne, hnames, hbody⟩ := h
    have hlater : AreWords ((declared.map Declaration.name).intersperse "," ++ ":" :: body.words) :=
      areWords_header (List.forall_mem_map.2 hnames) (Expr.areWords hbody)
    refine ⟨List.forall_mem_cons.2 ⟨isWord_with, hlater.isWord⟩, ?_⟩
    -- behind the word itself there is layout in any case
    exact List.isChain_cons.2 ⟨fun _ _ => .inl rfl, hlater.separate⟩

/-- Tokens that spell a program derive it, its number texts apart. -/
theorem Program.derives_words {p : Program} (h : p.IsPrintable) {ts : List Token}
    (ht : Spells ts p.words) :
    ∃ s, DerivesProgram ts p.names? s ∧ s.unspelled = p.body.shape.unspelled ∧
      ∀ t ∈ ts, t.Fits := by
  cases p with
  | bare body =>
    obtain ⟨s, hder, hs, hf⟩ := Expr.derives_words h ht
    exact ⟨s, .bare (hder.loosen (by cases body.phrase <;> decide)), hs, hf⟩
  | declaring withSpan declared body =>
    obtain ⟨hne, hnames, hbody⟩ := h
    obtain ⟨opening, ws, rfl, -, ho, hws⟩ := ht.uncons
    obtain ⟨us, vs, rfl, hus, hfu, hvs⟩ :=
      declares_header (by simpa using hne) (List.forall_mem_map.2 hnames) hws
    obtain ⟨s, hder, hs, hfv⟩ := Expr.derives_words hbody hvs
    have hsum : Derives .sum vs s := hder.loosen (by cases body.phrase <;> decide)
    refine ⟨s, .declaring ho hus hsum, hs, ?_⟩
    rw [List.forall_mem_cons, List.forall_mem_append]
    exact ⟨Token.fits_of_ne (by rw [ho]; decide), hfu, hfv⟩

/-- **READING UNDOES PRINTING.**  A program without holes and without negative numbers is
printed with the fewest parentheses and with any layout between its words.  What is printed
is read without an error, and up to places and number texts it is read as the program. -/
theorem parse_printed {p : Program} {text : String} (hp : p.IsPrintable)
    (h : Spaced p.words text.toList) :
    (parse text).errors = [] ∧
      ∃ q, (parse text).program = some q ∧ q.names? = p.names? ∧
        q.body.shape.unspelled = p.body.shape.unspelled := by
  obtain ⟨ts, hscan, hwords⟩ := h.scans (Program.areWords hp) 0
  have hts : tokens text = ts := hscan.eq_tokensFrom.symm
  obtain ⟨s, hder, hs, hf⟩ := Program.derives_words hp ⟨hwords, hscan.kind_eq⟩
  rw [← hts] at hder hf
  obtain ⟨he, q, hq, hnames, hbody⟩ := parse_of_derivesProgram hder hf
  refine ⟨he, q, hq, hnames, ?_⟩
  rw [hbody, hs]

/-- A word can follow at once. -/
theorem Spaced.next {word : String} {later : List String} {text : List Char}
    (hw : word ≠ "with") (h : Spaced later text) : Spaced (word :: later) (word.toList ++ text) :=
  .word isGap_nil (fun hwith => absurd hwith hw) h

/-- `with a:(1-(2-a))*3` keeps the parentheses that it needs, and hardly any layout. -/
theorem parse_printed_nested :
    ∃ p : Program, p.render = "(with (a) (* (- 1 (- 2 a)) 3))" ∧ p.IsPrintable ∧
      Spaced p.words "with a:(1-(2-a))*3".toList ∧
      (parse "with a:(1-(2-a))*3").errors = [] ∧
      ∃ q, (parse "with a:(1-(2-a))*3").program = some q ∧ q.names? = p.names? ∧
        q.body.shape.unspelled = p.body.shape.unspelled := by
  let inner : Expr :=
    .binary .sub ⟨0, 0⟩ (.literal 2 "2" ⟨0, 0⟩) (.reference "a" ⟨0, 0⟩) ⟨0, 0⟩
  let outer : Expr := .binary .sub ⟨0, 0⟩ (.literal 1 "1" ⟨0, 0⟩) inner ⟨0, 0⟩
  let p : Program := .declaring ⟨0, 0⟩ [⟨"a", ⟨0, 0⟩⟩]
    (.binary .mul ⟨0, 0⟩ outer (.literal 3 "3" ⟨0, 0⟩) ⟨0, 0⟩)
  have ha : IsName "a" := ⟨'a', [], rfl, by decide, by simp, by decide⟩
  have hp : p.IsPrintable := by
    refine ⟨by simp, List.forall_mem_singleton.2 ha, ⟨?_, ?_, ha⟩, ?_⟩
    · show 0 ≤ Int32.toInt 1
      decide
    · show 0 ≤ Int32.toInt 2
      decide
    · show 0 ≤ Int32.toInt 3
      decide
  have hwords : p.words =
      ["with", "a", ":", "(", "1", "-", "(", "2", "-", "a", ")", ")", "*", "3"] := by
    decide +kernel
  have hspaced : Spaced p.words "with a:(1-(2-a))*3".toList := by
    rw [hwords]
    refine .word isGap_nil (fun _ => ⟨' ', rfl, rfl⟩) ?_
    refine .word (List.forall_mem_singleton.2 rfl) (fun h => absurd h (by decide)) ?_
    repeat refine .next (by decide) ?_
    exact .done isGap_nil
  exact ⟨p, by decide +kernel, hp, hspaced, parse_printed hp hspaced⟩

end Calculator
