/-
  Calculator.Proofs.ViablePrefix
  ──────────────────────────────
  **THE FIRST ERROR IS AT THE EARLIEST POSSIBLE TOKEN.**

  The beginning of a source is viable as long as some program starts with it.  It
  is so exactly while its tokens lead from prospect to prospect (`isViable_iff`):
  what a program starts with leads somewhere, and from wherever tokens lead some
  others lead to the end of a program.

  Main statement: `isViable_take_iff`.
-/
import Calculator.Proofs.Tracking

namespace Calculator

/-! ## §1. Viable beginnings. -/

/-- Some program whose numbers are in range starts with the tokens, its end being its
last token. -/
def IsViable (us : List Token) : Prop :=
  ∃ ts final, IsSentence ts ∧ final.kind = .endOfInput ∧ us <+: ts ++ [final]

/-- Tokens that lead to where the end is due are a program. -/
theorem isSentence_of_run {ts : List Token} (hd : ∀ t ∈ ts, t.HasDecimal)
    (h : Prospect.start.run ts = some (.operator 0)) : IsSentence ts := by
  have hread := readsUnit_parseUnit 0 ts
  have htracks := hread.tracks
  -- an error would be at a token that leads nowhere, but all of them lead somewhere
  cases he : errorsOf (parseUnit 0 ts).journal.events with
  | cons error errors =>
    rw [he] at htracks
    obtain ⟨us, vs, p, rfl, hf, hu, hn⟩ := htracks
    rw [Prospect.run_append, hu, Option.bind_some] at h
    cases vs with
    | nil =>
      cases h
      rw [← hf] at hn
      cases hn
    | cons t vs =>
      rw [lookAhead_cons] at hf
      rw [Prospect.run_cons, hf, hn] at h
      cases h
  | nil =>
    obtain ⟨us, p, hts, -, hder, hfits⟩ := hread.derivesProgram hd he
    obtain ⟨hsum, hproduct⟩ := hread.no_operator
    -- what the program leaves could only be an end, behind which nothing leads on
    cases hrest : (parseUnit 0 ts).rest with
    | nil =>
      rw [hrest, List.append_nil] at hts
      exact hts ▸ ⟨⟨_, _, hder⟩, hfits⟩
    | cons t rest =>
      rw [hrest] at hts hsum hproduct
      rw [lookAhead_cons] at hsum hproduct
      rw [hts, Prospect.run_append, hder.run hfits, Option.bind_some, Prospect.run_cons] at h
      by_cases hk : t.kind = .endOfInput
      · have ha : (Prospect.operator 0).advance t = some .done :=
          Prospect.advance_operator_of_endOfInput hk
        rw [ha, Option.bind_some] at h
        cases rest <;> cases h
      · rw [Prospect.advance_operator_eq_none hsum hproduct (.inl rfl) (.inr hk)] at h
        cases h

/-- A beginning is viable exactly while its tokens lead from prospect to prospect. -/
theorem isViable_iff {us : List Token} (hd : ∀ t ∈ us, t.HasDecimal) :
    IsViable us ↔ (Prospect.start.run us).isSome = true := by
  constructor
  · rintro ⟨ts, final, ⟨⟨names, e, hder⟩, hf⟩, hk, vs, hvs⟩
    have hend : (Prospect.operator 0).advance final = some .done :=
      Prospect.advance_operator_of_endOfInput hk
    have hrun : Prospect.start.run (ts ++ [final]) = some .done := by
      rw [Prospect.run_append, hder.run hf, Option.bind_some, Prospect.run_cons, hend]
      rfl
    have hall : (Prospect.start.run (us ++ vs)).isSome = true := by
      rw [hvs, hrun]
      rfl
    exact Prospect.isSome_run_of_append hall
  · intro h
    obtain ⟨p, hp⟩ := Option.isSome_iff_exists.1 h
    by_cases hdone : p = .done
    · -- the end has come already
      rcases us.eq_nil_or_concat with rfl | ⟨ts, final, rfl⟩
      · rw [hdone] at hp
        cases hp
      · rw [List.concat_eq_append] at hd hp ⊢
        rw [hdone, Prospect.run_append] at hp
        obtain ⟨q, hq, hlast⟩ := Option.bind_eq_some_iff.1 hp
        rw [Prospect.run_cons] at hlast
        obtain ⟨r, hr, hdone'⟩ := Option.bind_eq_some_iff.1 hlast
        cases hdone'
        obtain ⟨rfl, hk⟩ := Prospect.kind_of_advance_eq_done hr
        have hts : IsSentence ts := by
          apply isSentence_of_run _ hq
          intro t ht
          exact hd t (List.mem_append_left _ ht)
        exact ⟨ts, final, hts, hk, List.prefix_rfl⟩
    · -- some tokens lead on to where the end is due
      have hall : ∀ t ∈ us ++ p.finish, t.HasDecimal := by
        rw [List.forall_mem_append]
        refine ⟨hd, ?_⟩
        intro t ht
        exact Prospect.hasDecimal_of_mem_finish ht
      have hrun : Prospect.start.run (us ++ p.finish) = some (.operator 0) := by
        rw [Prospect.run_append, hp, Option.bind_some, Prospect.run_finish hdone]
      refine ⟨us ++ p.finish, .endOfInput 0, isSentence_of_run hall hrun, rfl, ?_⟩
      rw [List.append_assoc]
      exact List.prefix_append us _

/-! ## §2. Sources. -/

/-- Behind a program the first token that is left leads nowhere. -/
theorem tracks_trailing {size : Nat} {ts : List Token} (hk : ∀ t ∈ ts, t.kind ≠ .endOfInput)
    (hs : Layer.sum.operator? (lookAhead size ts).kind = none)
    (hp : Layer.product.operator? (lookAhead size ts).kind = none) :
    Tracks size (.operator 0) ts [] (.operator 0) (errorsOf (trailing ts).events) := by
  cases ts with
  | nil => exact .stay
  | cons t rest =>
    have hn : (Prospect.operator 0).advance t = none :=
      Prospect.advance_operator_eq_none hs hp (.inl rfl) (.inr (hk t (List.mem_cons_self ..)))
    exact .fail rfl hn

/-- Reading a source goes along with the prospects up to its first error. -/
theorem tracks_parse (source : String) :
    Tracks (sourceSize source) .start (tokens source) [] (.operator 0) (parse source).errors := by
  have hread := readsUnit_parseUnit (sourceSize source) (tokens source)
  obtain ⟨hs, hp⟩ := hread.no_operator
  have hk : ∀ t ∈ (parseUnit (sourceSize source) (tokens source)).rest,
      t.kind ≠ .endOfInput := by
    intro t ht
    have hmem : t ∈ tokens source :=
      (parseUnit (sourceSize source) (tokens source)).suffix.subset ht
    exact kind_ne_endOfInput_of_mem_tokensFrom hmem
  rw [errors_parse]
  exact hread.tracks.append (tracks_trailing hk hs hp)

/-- The tokens of a source and its end have their decimal values. -/
theorem hasDecimal_of_mem_scan {source : String} {t : Token} (h : t ∈ scan source) :
    t.HasDecimal := by
  rcases List.mem_append.1 h with h | h
  · exact hasDecimal_of_mem_tokensFrom h
  · rw [List.mem_singleton.1 h]
    apply Token.hasDecimal_of_ne
    show TokenKind.endOfInput ≠ .number
    decide

/-- **THE FIRST ERROR IS AT THE EARLIEST POSSIBLE TOKEN.**  If a source has errors,
the first of them is at the token at some place `k`, the end of the source included;
the tokens in front of that place are the beginning of a program, and so is nothing
that reaches behind it. -/
theorem isViable_take_iff {source : String} {error : SyntaxError}
    (h : (parse source).errors.head? = some error) :
    ∃ k, (scan source)[k]? = some error.found ∧
      ∀ j, IsViable ((scan source).take j) ↔ j ≤ k := by
  have htracks := tracks_parse source
  obtain ⟨errors, he⟩ := List.head?_eq_some_iff.1 h
  rw [he] at htracks
  obtain ⟨us, vs, p, hts, hf, hu, hn⟩ := htracks
  obtain ⟨behind, hbehind⟩ : ∃ behind, scan source = us ++ error.found :: behind := by
    rw [scan, hts, ← hf]
    cases vs with
    | nil => exact ⟨[], by simp; rfl⟩
    | cons t vs => exact ⟨vs ++ [endToken source], by simp⟩
  refine ⟨us.length, by simp [hbehind], ?_⟩
  intro j
  have hd : ∀ t ∈ (scan source).take j, t.HasDecimal := by
    intro t ht
    exact hasDecimal_of_mem_scan (List.mem_of_mem_take ht)
  rw [isViable_iff hd, hbehind]
  rcases Nat.lt_or_ge us.length j with hj | hj
  · -- the beginning holds the token of the error, which leads nowhere
    obtain ⟨d, rfl⟩ : ∃ d, j = us.length + (d + 1) := ⟨j - us.length - 1, by omega⟩
    rw [List.take_length_add_append, List.take_succ_cons, Prospect.run_append, hu,
      Option.bind_some, Prospect.run_cons, hn]
    exact iff_of_false (by simp) (by omega)
  · -- the beginning stops in front of that token
    have hall : (Prospect.start.run (us.take j ++ us.drop j)).isSome = true := by
      rw [List.take_append_drop, hu]
      rfl
    rw [List.take_append_of_le_length hj]
    exact iff_of_true (Prospect.isSome_run_of_append hall) hj

/-- In `1 + 2147483648` the number is where no program goes on. -/
theorem isViable_take_overlong :
    ∃ error, (parse "1 + 2147483648").errors.head? = some error ∧
      error.found.span = ⟨4, 10⟩ ∧
      ∃ k, (scan "1 + 2147483648")[k]? = some error.found ∧
        ∀ j, IsViable ((scan "1 + 2147483648").take j) ↔ j ≤ k :=
  ⟨.numberOutOfRange ⟨.number, "2147483648", ⟨4, 10⟩⟩, by decide +kernel, rfl,
    isViable_take_iff (by decide +kernel)⟩

end Calculator
