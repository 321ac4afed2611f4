/-
  Calculator.Text.Cluster
  ───────────────────────
  **GRAPHEME CLUSTERS.**

  Cuts a text into the groups of characters that a reader takes for one
  character, by the rules of the Unicode standard for extended grapheme clusters.
  Whether a group goes on is seen from what it holds so far (`continues`).

  Main statements: a text is the sequence of its clusters (`flatten_clusters`),
  none of which is empty (`ne_nil_of_mem_clusters`).
-/
import Calculator.Text.Cluster.Role

namespace Calculator.Text

/-! ## §1. Looking back.  Characters before a place are given last first. -/

/-- Whether the characters end with a pictograph and marks that join it. -/
def endsWithPictograph : List Char → Bool
  | [] => false
  | c :: earlier =>
    match clusterRole c with
    | .pictograph => true
    | .extend => endsWithPictograph earlier
    | _ => false

/-- Whether the characters end with a consonant and marks that join it, one of
which links it with what follows, unless it is `linked` already.  The zero width
non-joiner keeps what follows apart. -/
def endsWithLinked (linked : Bool) : List Char → Bool
  | [] => false
  | c :: earlier =>
    match clusterRole c with
    | .consonant => linked
    | .extend => c != '\u200C' && endsWithLinked (linked || isLinker c) earlier
    | .joiner => endsWithLinked linked earlier
    | _ => false

/-- Whether the characters end with a half of a flag that still lacks the other. -/
def endsWithHalfFlag : List Char → Bool
  | [] => false
  | c :: earlier => clusterRole c == .regional && !endsWithHalfFlag earlier

/-! ## §2. Clusters. -/

/-- Whether the character belongs to the cluster that begins with the characters
before it. -/
def continues (before : List Char) (c : Char) : Bool :=
  match before with
  | [] => false
  | b :: earlier =>
    match clusterRole b, clusterRole c with
    | .control, _ => b == '\r' && c == '\n'
    | _, .control => false
    | _, .extend | _, .joiner | _, .spacing => true
    | .prepend, _ => true
    | .leading, .leading | .leading, .vowel => true
    | .leading, .openSyllable | .leading, .closedSyllable => true
    | .vowel, .vowel | .vowel, .trailing => true
    | .openSyllable, .vowel | .openSyllable, .trailing => true
    | .trailing, .trailing | .closedSyllable, .trailing => true
    | .joiner, .pictograph => endsWithPictograph earlier
    | .regional, .regional => endsWithHalfFlag before
    | _, .consonant => endsWithLinked false before
    | _, _ => false

/-- The clusters of a text whose first cluster has begun with the characters
`before`, the last of them first. -/
def clustersFrom (before : List Char) : List Char → List (List Char)
  | [] => [before.reverse]
  | c :: cs =>
    if continues before c then clustersFrom (c :: before) cs
    else before.reverse :: clustersFrom [c] cs

/-- The clusters of a text. -/
def clusters : List Char → List (List Char)
  | [] => []
  | c :: cs => clustersFrom [c] cs

theorem flatten_clustersFrom (before cs : List Char) :
    (clustersFrom before cs).flatten = before.reverse ++ cs := by
  induction cs generalizing before with
  | nil => simp [clustersFrom]
  | cons c cs ih =>
    rw [clustersFrom]
    split
    · simp [ih]
    · simp [ih]

/-- Nothing of a text is lost in its clusters. -/
theorem flatten_clusters (cs : List Char) : (clusters cs).flatten = cs := by
  cases cs with
  | nil => rfl
  | cons c cs => exact flatten_clustersFrom [c] cs

theorem ne_nil_of_mem_clustersFrom {before cs g : List Char} (hb : before ≠ [])
    (h : g ∈ clustersFrom before cs) : g ≠ [] := by
  induction cs generalizing before with
  | nil =>
    obtain rfl : g = before.reverse := by simpa [clustersFrom] using h
    simpa using hb
  | cons c cs ih =>
    rw [clustersFrom] at h
    split at h
    · exact ih (List.cons_ne_nil _ _) h
    · rcases List.mem_cons.1 h with rfl | h
      · simpa using hb
      · exact ih (List.cons_ne_nil _ _) h

/-- A cluster holds a character. -/
theorem ne_nil_of_mem_clusters {cs g : List Char} (h : g ∈ clusters cs) : g ≠ [] := by
  cases cs with
  | nil => simp [clusters] at h
  | cons c cs => exact ne_nil_of_mem_clustersFrom (List.cons_ne_nil _ _) h

end Calculator.Text
