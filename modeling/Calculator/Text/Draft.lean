/-
  Calculator.Text.Draft
  ─────────────────────
  **TEXT THAT IS CORRECTED WHILE IT IS TYPED.**

  A backspace in a typed text takes back the cluster before it that still stands;
  where nothing is left it does nothing.  How many bytes to take back is kept for
  each cluster in a single byte, so a cluster of 256 bytes counts as none: its
  backspace takes nothing back.  A backspace that would leave a part of a
  character behind makes the text unreadable.

  Main statement: without a backspace the text stays as it was typed
  (`corrected?_eq_self`).
-/
import Calculator.Text.Cluster
import Calculator.Text.Utf8

namespace Calculator.Text

/-- What stands of a text while it is typed. -/
structure Draft where
  /-- The characters, the last one first. -/
  standing : List Char
  /-- For each cluster how many bytes its backspace takes back, the last one first. -/
  sizes : List UInt8
  deriving DecidableEq, Repr, Inhabited

namespace Draft

/-- The draft before anything is typed. -/
def empty : Draft := ⟨[], []⟩

/-- What has been typed. -/
def text (d : Draft) : List Char := d.standing.reverse

/-- Adds a cluster. -/
def add (cluster : List Char) (d : Draft) : Draft :=
  ⟨cluster.reverse ++ d.standing, UInt8.ofNat (width cluster) :: d.sizes⟩

/-- Takes the last cluster back; `none` if a part of a character would be left. -/
def takeBack? (d : Draft) : Option Draft :=
  match d.sizes with
  | [] => some d
  | size :: sizes => (dropBytes? size.toNat d.standing).map (⟨·, sizes⟩)

/-- Types a cluster, which may be a backspace. -/
def type? (d : Draft) (cluster : List Char) : Option Draft :=
  if cluster = ['\x08'] then d.takeBack? else some (d.add cluster)

@[simp] theorem text_empty : empty.text = [] := rfl

@[simp] theorem text_add (cluster : List Char) (d : Draft) :
    (d.add cluster).text = d.text ++ cluster := by
  simp [text, add]

end Draft

/-- The text that is left when each backspace has done its work, if one is. -/
def corrected? (cs : List Char) : Option (List Char) :=
  ((clusters cs).foldlM Draft.type? .empty).map Draft.text

theorem map_text_foldlM_type? {clusters : List (List Char)} (h : ['\x08'] ∉ clusters) (d : Draft) :
    (clusters.foldlM Draft.type? d).map Draft.text = some (d.text ++ clusters.flatten) := by
  induction clusters generalizing d with
  | nil => simp
  | cons g gs ih =>
    obtain ⟨hg, hgs⟩ := not_or.1 (mt List.mem_cons.2 h)
    rw [List.foldlM_cons, Draft.type?, if_neg (Ne.symm hg)]
    show (gs.foldlM Draft.type? (d.add g)).map Draft.text = _
    rw [ih hgs, Draft.text_add, List.flatten_cons, List.append_assoc]

/-- Where no backspace was typed, nothing is taken back. -/
theorem corrected?_eq_self {cs : List Char} (h : '\x08' ∉ cs) : corrected? cs = some cs := by
  have hg : ['\x08'] ∉ clusters cs := fun hm =>
    h (by
      rw [← flatten_clusters cs]
      exact List.mem_flatten.2 ⟨_, hm, List.mem_singleton.2 rfl⟩)
  rw [corrected?, map_text_foldlM_type? hg, flatten_clusters, Draft.text_empty, List.nil_append]

end Calculator.Text
