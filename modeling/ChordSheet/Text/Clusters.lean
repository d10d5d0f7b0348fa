import ChordSheet.Text.ClusterClass

/-!
# Clusters of a text

A text falls into clusters, the groups of characters that a reader takes for one. They are the
extended grapheme clusters of Unicode: `joins` states its rules, each as one case.

* `flatten_clusters` : the clusters of a text make up the text.
* `ne_nil_of_mem_clusters` : no cluster is empty.
* `eq_singleton_of_mem_clusters` : a control other than a line end is a cluster of its own.
-/

set_option autoImplicit false

namespace ChordSheet.Text

open ClusterClass (ofChar)

/-- Whether the characters before a joiner, the last one first, end in a picture. -/
def endsInPicture (before : List Char) : Bool :=
  ((before.dropWhile fun c => (ofChar c).isMark).head?.map ofChar) = some .pictograph

/-- Whether the characters, the last one first, end in a consonant that is tied to what comes
next. -/
def endsInTie (cluster : List Char) : Bool :=
  let (marks, rest) := cluster.span fun c => (ofChar c).isConjunctMark
  marks.any (fun c => ofChar c = .linker) && rest.head?.map ofChar = some .consonant

/-- The number of flag letters in which the characters, the last one first, end. -/
def flagLetters (cluster : List Char) : Nat := (cluster.takeWhile isFlagLetter).length

/-- Whether a character belongs to the cluster that began before it, whose characters are given,
the last one first. -/
def joins : List Char → Char → Bool
  | [], _ => false
  | last :: before, c =>
    match ofChar last, ofChar c with
    -- A control stands alone, but for the two characters of a line end.
    | .control, _ => last = '\r' && c = '\n'
    | _, .control => false
    -- A syllable of Hangul goes on to its end.
    | .leading, .leading | .leading, .vowel => true
    | .leading, .openSyllable | .leading, .closedSyllable => true
    | .openSyllable, .vowel | .openSyllable, .trailing | .vowel, .vowel | .vowel, .trailing => true
    | .closedSyllable, .trailing | .trailing, .trailing => true
    -- A mark belongs to what comes before it, and some signs to what comes after them.
    | _, .mark | _, .linker | _, .nonJoiner | _, .joiner | _, .spacing => true
    | .preceding, _ => true
    -- Consonants are tied together, pictures joined, and letters of flags taken in pairs.
    | _, .consonant => endsInTie (last :: before)
    | .joiner, .pictograph => endsInPicture before
    | .flagLetter, .flagLetter => flagLetters before % 2 = 0
    | _, _ => false

/-- The clusters of a text that goes on from an open cluster, whose characters are given, the
last one first. -/
def clustersFrom (cluster : List Char) : List Char → List (List Char)
  | [] => [cluster.reverse]
  | c :: cs =>
    if joins cluster c then clustersFrom (c :: cluster) cs
    else cluster.reverse :: clustersFrom [c] cs

/-- The clusters of a text. -/
def clusters : List Char → List (List Char)
  | [] => []
  | c :: cs => clustersFrom [c] cs

theorem flatten_clustersFrom (s : List Char) :
    ∀ cluster, (clustersFrom cluster s).flatten = cluster.reverse ++ s := by
  induction s with
  | nil => intro cluster; simp [clustersFrom]
  | cons c cs ih =>
    intro cluster
    unfold clustersFrom
    split <;> simp [ih]

theorem flatten_clusters (s : List Char) : (clusters s).flatten = s := by
  cases s with
  | nil => rfl
  | cons c cs => simp [clusters, flatten_clustersFrom]

theorem ne_nil_of_mem_clustersFrom {g s : List Char} :
    ∀ {cluster}, cluster ≠ [] → g ∈ clustersFrom cluster s → g ≠ [] := by
  induction s with
  | nil =>
    intro cluster h hg
    simp only [clustersFrom, List.mem_singleton] at hg
    simpa [hg] using h
  | cons c cs ih =>
    intro cluster h hg
    unfold clustersFrom at hg
    split at hg
    · exact ih (List.cons_ne_nil _ _) hg
    · rcases List.mem_cons.mp hg with rfl | hg
      · simpa using h
      · exact ih (List.cons_ne_nil _ _) hg

theorem ne_nil_of_mem_clusters {s g : List Char} (h : g ∈ clusters s) : g ≠ [] := by
  cases s with
  | nil => cases h
  | cons c cs => exact ne_nil_of_mem_clustersFrom (List.cons_ne_nil _ _) h

/-- Nothing joins a control other than a line end. -/
theorem joins_control_left {c d : Char} {before : List Char} (h : ofChar c = .control)
    (hr : c ≠ '\r') : joins (c :: before) d = false := by
  simp [joins, h, hr]

/-- A control other than a line end joins nothing. -/
theorem joins_control_right {c : Char} {cluster : List Char} (h : ofChar c = .control)
    (hn : c ≠ '\n') : joins cluster c = false := by
  cases cluster with
  | nil => rfl
  | cons last before => cases hl : ofChar last <;> simp [joins, hl, h, hn]

theorem eq_singleton_of_mem_clustersFrom {c : Char} {g s : List Char} (h : ofChar c = .control)
    (hr : c ≠ '\r') (hn : c ≠ '\n') :
    ∀ cluster, (c ∈ cluster → cluster = [c]) → g ∈ clustersFrom cluster s → c ∈ g →
      g = [c] := by
  induction s with
  | nil =>
    intro cluster alone hg hc
    simp only [clustersFrom, List.mem_singleton] at hg
    subst hg
    simp [alone (List.mem_reverse.mp hc)]
  | cons d ds ih =>
    intro cluster alone hg hc
    unfold clustersFrom at hg
    split at hg
    · rename_i hj
      refine ih (d :: cluster) (fun hm => ?_) hg hc
      rcases List.mem_cons.mp hm with rfl | hm
      · simp [joins_control_right h hn] at hj
      · rw [alone hm, joins_control_left h hr] at hj
        cases hj
    · rcases List.mem_cons.mp hg with rfl | hg
      · simp [alone (List.mem_reverse.mp hc)]
      · refine ih [d] (fun hm => ?_) hg hc
        rw [List.mem_singleton.mp hm]

theorem eq_singleton_of_mem_clusters {c : Char} {g s : List Char} (h : ofChar c = .control)
    (hr : c ≠ '\r') (hn : c ≠ '\n') (hg : g ∈ clusters s) (hc : c ∈ g) : g = [c] := by
  cases s with
  | nil => cases hg
  | cons d ds =>
    refine eq_singleton_of_mem_clustersFrom h hr hn [d] (fun hm => ?_) hg hc
    rw [List.mem_singleton.mp hm]

end ChordSheet.Text
