import ChordSheet.Line.Kind
import ChordSheet.Proofs.Figures

/-!
# Kinds of moved lines

Figures that are written in another key keep their slashes, their blanks and their note letters,
and they never come to mention the word *key*. So a line that is no marker never becomes one, and
a line of chords stays one, unless sharp signs inside its symbols were all that made it look like
chords: then it may turn into text.

* `Line.mentionsKey_flatten` : the word *key* stands within a single run.
* `Line.Reads.mentionsKey_write` : figures mention it in every key or in none.
* `Line.Reads.kindOf_write_eq_chords_iff` : when a moved line of chords is one still.
* `Line.Reads.showsChords_write` : a slash, or blanks and a letter, keep it one.
-/

set_option autoImplicit false

namespace ChordSheet

/-! ## Signs of chords -/

namespace Line

/-- More than five blanks, and the letter of a note. -/
def Spaced (s : List Char) : Prop := 5 < s.countP Text.isBlank ∧ ∃ c ∈ s, 'A' ≤ c ∧ c ≤ 'G'

/-- A slash, a sharp sign, or blanks with the letter of a note. -/
def ShowsChords (s : List Char) : Prop := '/' ∈ s ∨ '#' ∈ s ∨ Spaced s

theorem spaced_iff {s : List Char} :
    Spaced s ↔ (decide (s.countP Text.isBlank > 5) && s.any isNoteLetter) = true := by
  simp [Spaced, isNoteLetter]

theorem kindOf_eq_chords_iff {s : List Char} :
    kindOf s = .chords ↔ mentionsKey s = false ∧ Text.allBlank s = false ∧ ShowsChords s := by
  have hlooks : looksLikeChords s = true ↔ Text.allBlank s = false ∧ ShowsChords s := by
    simp [looksLikeChords, ShowsChords, spaced_iff, or_assoc]
  rw [← hlooks, kindOf]
  cases mentionsKey s <;> cases looksLikeChords s <;> simp

/-! ## The word *key* -/

theorem mentionsKey_cons_of_not_k {c : Char} (s : List Char) (h : isLetterK c = false) :
    mentionsKey (c :: s) = mentionsKey s := by
  match s with
  | [] => rfl
  | [_] => rfl
  | a :: b :: cs => simp [mentionsKey, h]

theorem mentionsKey_eq_false {s : List Char} (h : ∀ c ∈ s, isLetterK c = false) :
    mentionsKey s = false := by
  induction s with
  | nil => rfl
  | cons c cs ih =>
    rw [mentionsKey_cons_of_not_k cs (h c List.mem_cons_self)]
    exact ih fun d hd => h d (List.mem_cons_of_mem _ hd)

theorem mentionsKey_append_of_not_k {s : List Char} (t : List Char)
    (h : ∀ c ∈ s, isLetterK c = false) : mentionsKey (s ++ t) = mentionsKey t := by
  induction s with
  | nil => rfl
  | cons c cs ih =>
    rw [List.cons_append, mentionsKey_cons_of_not_k _ (h c List.mem_cons_self)]
    exact ih fun d hd => h d (List.mem_cons_of_mem _ hd)

/-- A character that is neither *e* nor *y* parts the word. -/
theorem mentionsKey_append_cons (s : List Char) {c : Char} (t : List Char)
    (he : isLetterE c = false) (hy : isLetterY c = false) :
    mentionsKey (s ++ c :: t) = (mentionsKey s || mentionsKey (c :: t)) := by
  match s with
  | [] => rfl
  | [a] => cases t <;> simp [mentionsKey, he]
  | [a, b] =>
    have hb : mentionsKey (b :: c :: t) = mentionsKey (c :: t) := by
      cases t <;> simp [mentionsKey, he]
    simpa [mentionsKey, hy] using hb
  | a :: b :: d :: s =>
    have ih := mentionsKey_append_cons (b :: d :: s) t he hy
    simp only [List.cons_append] at ih
    simp [mentionsKey, ih, Bool.or_assoc]

theorem not_key_of_isBlank {c : Char} (h : Text.isBlank c = true) :
    isLetterK c = false ∧ isLetterE c = false ∧ isLetterY c = false := by
  have hne : ∀ d : Char, Text.isBlank d = false → (c == d) = false := by
    intro d hd
    rw [beq_eq_false_iff_ne]
    rintro rfl
    rw [h] at hd
    cases hd
  have hk := hne 'k' (by decide)
  have hK := hne 'K' (by decide)
  have hkelvin := hne '\u212A' (by decide)
  have he := hne 'e' (by decide)
  have hE := hne 'E' (by decide)
  have hy := hne 'y' (by decide)
  have hY := hne 'Y' (by decide)
  simp [isLetterK, isLetterE, isLetterY, hk, hK, hkelvin, he, hE, hy, hY]

/-- **The word *key* stands within a single run**, as it holds no blank. -/
theorem mentionsKey_flatten {rs : List Run} (h : Run.Partition rs) :
    mentionsKey (Run.flatten rs) = rs.any fun r => mentionsKey r.text := by
  induction rs with
  | nil => rfl
  | cons r rs ih =>
    obtain ⟨hr, -, hrs⟩ := Run.partition_cons_iff.mp h
    rw [Run.flatten_cons, List.any_cons, ← ih hrs]
    cases hk : r.kind with
    | blank =>
      have hblank : ∀ c ∈ r.text, isLetterK c = false :=
        fun c hc => (not_key_of_isBlank (hr.isBlank_eq_true hk c hc)).1
      rw [mentionsKey_append_of_not_k _ hblank, mentionsKey_eq_false hblank, Bool.false_or]
    | word =>
      have hnext := h.isBlank_head?_flatten hk
      cases hflat : Run.flatten rs with
      | nil => simp [mentionsKey]
      | cons c cs =>
        -- a blank can be no part of the word
        have hblank : Text.isBlank c = true := hnext c (by rw [hflat]; rfl)
        obtain ⟨_, he, hy⟩ := not_key_of_isBlank hblank
        exact mentionsKey_append_cons r.text cs he hy

end Line

/-! ## What every key shows -/

namespace Key

theorem mentionsKey_spell (k : Key) (ds : List Degree) :
    Line.mentionsKey (k.spell ds) = false := by
  apply Line.mentionsKey_eq_false
  intro c hc
  have hk := k.forall_mem_spell ds (p := fun x => !Line.isLetterK x) (by decide) c hc
  simpa using hk

theorem contains_slash_spell (k : Key) (ds : List Degree) :
    (k.spell ds).contains '/' = decide (2 ≤ ds.length) := by
  match ds with
  | [] => rfl
  | [d] => simpa using Chord.slash_not_mem_render (chord k d)
  | d :: e :: es => simp [spell_cons_cons]

theorem any_isNoteLetter_spell (k : Key) {ds : List Degree} (hne : ds ≠ []) :
    (k.spell ds).any Line.isNoteLetter = true := by
  obtain ⟨n, rest, hspell⟩ := k.exists_letter_spell hne
  have hn : Line.isNoteLetter n.letter = true := by cases n <;> decide
  simp [hspell, hn]

theorem countP_isBlank_spell (k : Key) {ds : List Degree} (hne : ds ≠ []) :
    (k.spell ds).countP Text.isBlank = 0 := by
  rw [List.countP_eq_zero]
  intro c hc
  simp [(Run.solid_spell k hne).isBlank_eq_false rfl c hc]

theorem allBlank_spell (k : Key) {ds : List Degree} (hne : ds ≠ []) :
    Text.allBlank (k.spell ds) = false := by
  obtain ⟨n, rest, hspell⟩ := k.exists_letter_spell hne
  have hn : Text.isBlank n.letter = false := by cases n <;> decide
  simp [Text.allBlank, hspell, hn]

end Key

namespace Figure

/-- What spelled words do not show of their key, no figure shows. -/
theorem text_run_congr {α : Type} {k l : Key} (g : List Char → α)
    (h : ∀ ds, ds ≠ [] → g (k.spell ds) = g (l.spell ds)) (f : Figure) :
    g (f.run k).text = g (f.run l).text := by
  cases f with
  | plain r _ => rfl
  | degrees ds hne _ => exact h ds hne

theorem contains_slash_write (k l : Key) (fs : List Figure) :
    (write k fs).contains '/' = (write l fs).contains '/' := by
  have hrun : ∀ f : Figure, (f.run k).text.contains '/' = (f.run l).text.contains '/' :=
    text_run_congr (·.contains '/') fun ds _ => by
      rw [k.contains_slash_spell, l.contains_slash_spell]
  simp only [write, Run.flatten, ← List.any_beq, List.any_flatMap, List.any_map] at hrun ⊢
  exact congrArg fs.any (funext hrun)

theorem any_isNoteLetter_write (k l : Key) (fs : List Figure) :
    (write k fs).any Line.isNoteLetter = (write l fs).any Line.isNoteLetter := by
  have hrun : ∀ f : Figure,
      (f.run k).text.any Line.isNoteLetter = (f.run l).text.any Line.isNoteLetter :=
    text_run_congr (·.any Line.isNoteLetter) fun ds hne => by
      rw [k.any_isNoteLetter_spell hne, l.any_isNoteLetter_spell hne]
  rw [write, write, Run.flatten, Run.flatten, List.any_flatMap, List.any_flatMap, List.any_map,
    List.any_map]
  exact congrArg fs.any (funext hrun)

theorem allBlank_write (k l : Key) (fs : List Figure) :
    Text.allBlank (write k fs) = Text.allBlank (write l fs) := by
  have hrun : ∀ f : Figure, Text.allBlank (f.run k).text = Text.allBlank (f.run l).text :=
    text_run_congr Text.allBlank fun ds hne => by
      rw [k.allBlank_spell hne, l.allBlank_spell hne]
  rw [write, write, Run.flatten, Run.flatten, Text.allBlank, Text.allBlank, List.all_flatMap,
    List.all_flatMap, List.all_map, List.all_map]
  exact congrArg fs.all (funext hrun)

theorem countP_isBlank_write (k l : Key) (fs : List Figure) :
    (write k fs).countP Text.isBlank = (write l fs).countP Text.isBlank := by
  have hrun : ∀ f : Figure,
      (f.run k).text.countP Text.isBlank = (f.run l).text.countP Text.isBlank :=
    text_run_congr (·.countP Text.isBlank) fun ds hne => by
      rw [k.countP_isBlank_spell hne, l.countP_isBlank_spell hne]
  rw [write, write, Run.flatten, Run.flatten, List.flatMap_map, List.flatMap_map,
    List.countP_flatMap, List.countP_flatMap]
  congr 1
  exact List.map_congr_left fun f _ => hrun f

theorem spaced_write (k l : Key) (fs : List Figure) :
    Line.Spaced (write k fs) ↔ Line.Spaced (write l fs) := by
  rw [Line.spaced_iff, Line.spaced_iff, countP_isBlank_write k l, any_isNoteLetter_write k l]

end Figure

/-! ## The kind of a moved line -/

namespace Line

variable {k : Key} {s : List Char} {fs : List Figure}

/-- Figures mention the word *key* in every key or in none. -/
theorem Reads.mentionsKey_write (h : Reads k s fs) (l : Key) :
    mentionsKey (Figure.write l fs) = mentionsKey s := by
  have hl : Run.Partition (fs.map (Figure.run l)) := Figure.partition_map_run l h.partition
  have hrun : ∀ f : Figure, mentionsKey (f.run l).text = mentionsKey (f.run k).text :=
    Figure.text_run_congr mentionsKey fun ds _ => by
      rw [k.mentionsKey_spell, l.mentionsKey_spell]
  rw [h.eq_write, Figure.write, Figure.write, mentionsKey_flatten hl,
    mentionsKey_flatten h.partition, List.any_map, List.any_map]
  exact congrArg fs.any (funext hrun)

/-- A slash, or blanks and a letter, show in every key that a line looks like chords. -/
theorem Reads.showsChords_write (h : Reads k s fs) (l : Key) (hs : '/' ∈ s ∨ Spaced s) :
    ShowsChords (Figure.write l fs) := by
  rw [h.eq_write] at hs
  rcases hs with hslash | hspaced
  · rw [← List.contains_iff_mem, Figure.contains_slash_write k l, List.contains_iff_mem] at hslash
    exact .inl hslash
  · exact .inr (.inr ((Figure.spaced_write k l fs).mp hspaced))

/-- **A moved line of chords is one still exactly if it shows chords.** -/
theorem Reads.kindOf_write_eq_chords_iff (h : Reads k s fs) (hk : kindOf s = .chords) (l : Key) :
    kindOf (Figure.write l fs) = .chords ↔ ShowsChords (Figure.write l fs) := by
  obtain ⟨hkey, hblank, _⟩ := kindOf_eq_chords_iff.mp hk
  rw [h.eq_write, Figure.allBlank_write k l] at hblank
  rw [kindOf_eq_chords_iff, h.mentionsKey_write l, hkey, hblank]
  simp

/-- A moved line of chords that is none any more is text. -/
theorem Reads.kindOf_write_eq_text (h : Reads k s fs) (hk : kindOf s = .chords) {l : Key}
    (hl : kindOf (Figure.write l fs) ≠ .chords) : kindOf (Figure.write l fs) = .text := by
  cases hkind : kindOf (Figure.write l fs) with
  | text => rfl
  | chords => exact absurd hkind hl
  | keyMarker =>
    rw [kindOf_eq_keyMarker_iff, h.mentionsKey_write l] at hkind
    rw [kindOf_eq_keyMarker_iff.mpr hkind] at hk
    cases hk

end Line

end ChordSheet
