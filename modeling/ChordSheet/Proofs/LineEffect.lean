import ChordSheet.Proofs.Figures

/-!
# What moving does to a line

The effect of a transposition on a line, told by the words of the line alone: which symbol stops
it, and otherwise what becomes of each run. Words and sides are found by where they stand, not by
the way in which a line is read.

* `Line.findSome?_foreignSide?_eq_some_iff` : the side that stops a line is the leftmost foreign
  side of the leftmost symbol that has one.
* `Figure.movesTo` : what becomes of a run that is read in the source key.
* `Transposition.line_eq_error_iff_firstForeign` : what stops a line, by places.
* `Transposition.line_effect` : the exact effect of moving a line.
-/

set_option autoImplicit false

namespace ChordSheet

/-! ## Foreign sides -/

namespace Key

/-- The leftmost side of a word that is none of the seven chords of a key. -/
def FirstForeign (k : Key) (word side : List Char) : Prop :=
  ∃ left right, Text.pieces '/' word = left ++ side :: right ∧
    String.ofList side ∉ chordNames k ∧ ∀ p ∈ left, String.ofList p ∈ chordNames k

variable {k : Key} {word side : List Char}

theorem isNone_degreeOf?_iff : (degreeOf? k side).isNone = true ↔
    String.ofList side ∉ chordNames k := by
  rw [← degreeOf?_isSome_iff, Option.isNone_iff_eq_none, Option.not_isSome_iff_eq_none]

theorem foreignSide?_eq_some_iff : k.foreignSide? word = some side ↔ k.FirstForeign word side := by
  rw [foreignSide?, List.find?_eq_some_iff_append, isNone_degreeOf?_iff]
  constructor
  · rintro ⟨hside, left, right, hword, hleft⟩
    refine ⟨left, right, hword, hside, ?_⟩
    intro p hp
    rw [← degreeOf?_isSome_iff]
    simpa using hleft p hp
  · rintro ⟨left, right, hword, hside, hleft⟩
    refine ⟨hside, left, right, hword, ?_⟩
    intro p hp
    simpa using degreeOf?_isSome_iff.mpr (hleft p hp)

theorem foreignSide?_eq_none_iff :
    k.foreignSide? word = none ↔
      ∀ p ∈ Text.pieces '/' word, String.ofList p ∈ chordNames k := by
  rw [foreignSide?, List.find?_eq_none]
  refine forall₂_congr fun p _ => ?_
  rw [isNone_degreeOf?_iff, not_not]

end Key

namespace Line

/-- A maximal word of a line that is a symbol with a foreign side, the leftmost such word, and the
leftmost such side of it. -/
structure FirstForeign (k : Key) (s before word after side : List Char) : Prop where
  wordAt : WordAt s before word after
  symbol : isSymbol word = true
  side : k.FirstForeign word side
  first : ∀ before' word' after', WordAt s before' word' after' →
    before'.length < before.length → isSymbol word' = true →
      ∀ p ∈ Text.pieces '/' word', String.ofList p ∈ k.chordNames

variable {k : Key} {s before word after side : List Char}

theorem foreignSide?_word (hsolid : Run.Solid ⟨.word, word⟩) :
    Run.foreignSide? k ⟨.word, word⟩ = if isSymbol word then k.foreignSide? word else none := by
  rw [Run.foreignSide?, hsolid.isSymbol_eq, hsolid.word_eq rfl]
  rfl

theorem WordAt.solid (h : WordAt s before word after) : Run.Solid ⟨.word, word⟩ :=
  ⟨h.ne_nil, fun c hc => RunKind.ofChar_eq_word_iff.mpr (h.not_blank c hc)⟩

/-- A run with a foreign side is a word that is a symbol. -/
theorem eq_word_of_foreignSide? {r : Run} (hr : r.Solid) (h : r.foreignSide? k = some side) :
    r = ⟨.word, r.text⟩ ∧ isSymbol r.text = true ∧ k.foreignSide? r.text = some side := by
  unfold Run.foreignSide? at h
  split at h
  · rename_i hsym
    obtain ⟨hk, hs⟩ := hr.isSymbol_iff.mp hsym
    rw [hr.word_eq hk] at h
    exact ⟨by rw [← hk], hs, h⟩
  · cases h

theorem firstForeign_of_findSome? (h : (runs s).findSome? (Run.foreignSide? k) = some side) :
    ∃ before word after, FirstForeign k s before word after side := by
  obtain ⟨rs, r, qs, hruns, hr, hrs⟩ := List.findSome?_eq_some_iff.mp h
  have hsolid : r.Solid := (partition_runs s).solid r (by simp [hruns])
  obtain ⟨hword, hsym, hside⟩ := eq_word_of_foreignSide? hsolid hr
  rw [hword] at hruns
  refine ⟨Run.flatten rs, r.text, Run.flatten qs, wordAt_of_runs_eq hruns, hsym,
    Key.foreignSide?_eq_some_iff.mp hside, ?_⟩
  intro before' word' after' hat hlt hsym'
  -- an earlier word stands among the runs before `r`, none of which has a foreign side
  have hmem : (⟨.word, word'⟩ : Run) ∈ rs := hat.mem_of_length_lt hruns hlt
  have hnone := hrs _ hmem
  rw [foreignSide?_word hat.solid, if_pos hsym'] at hnone
  exact Key.foreignSide?_eq_none_iff.mp hnone

theorem FirstForeign.findSome? (h : FirstForeign k s before word after side) :
    (runs s).findSome? (Run.foreignSide? k) = some side := by
  obtain ⟨hat, hsym, hside, hfirst⟩ := h
  rw [List.findSome?_eq_some_iff]
  refine ⟨runs before, ⟨.word, word⟩, runs after, hat.runs_eq, ?_, ?_⟩
  · rw [foreignSide?_word hat.solid, if_pos hsym]
    exact Key.foreignSide?_eq_some_iff.mpr hside
  · intro r hr
    rw [Option.eq_none_iff_forall_ne_some]
    intro p hp
    have hsolid : r.Solid := (partition_runs before).solid r hr
    obtain ⟨hword, hsym', hp⟩ := eq_word_of_foreignSide? hsolid hp
    -- the run stands at a place before the word, where no symbol has a foreign side
    obtain ⟨rs, qs, hsplit⟩ := List.append_of_mem hr
    have hruns := hat.runs_eq
    rw [hsplit, List.append_assoc, List.cons_append, hword] at hruns
    have hlt : (Run.flatten rs).length < before.length := by
      have hpos := List.length_pos_iff.mpr hsolid.ne_nil
      rw [← text_runs before, hsplit, Run.flatten_append, Run.flatten_cons, List.length_append,
        List.length_append]
      omega
    have hall := hfirst _ _ _ (wordAt_of_runs_eq hruns) hlt hsym'
    rw [Key.foreignSide?_eq_none_iff.mpr hall] at hp
    cases hp

/-- **The side that stops a line is the leftmost foreign side of the leftmost symbol with one.** -/
theorem findSome?_foreignSide?_eq_some_iff :
    (runs s).findSome? (Run.foreignSide? k) = some side ↔
      ∃ before word after, FirstForeign k s before word after side := by
  constructor
  · exact firstForeign_of_findSome?
  · rintro ⟨before, word, after, h⟩
    exact h.findSome?

end Line

/-! ## What becomes of a run -/

/-- What a transposition makes of a run: blanks and words that are no symbols stay, and a symbol
becomes the symbol with the chords of the same degrees of the target key, side by side. -/
structure Run.MovesTo (t : Transposition) (r q : Run) : Prop where
  kind : q.kind = r.kind
  blank : r.kind = .blank → q.text = r.text
  other : r.kind = .word → ChordSheet.isSymbol r.text = false → q.text = r.text
  symbol : r.kind = .word → ChordSheet.isSymbol r.text = true →
    ∃ ds : List Degree,
      Text.pieces '/' r.text = ds.map (fun d => (Key.chord t.source d).render) ∧
      Text.pieces '/' q.text = ds.map (fun d => (Key.chord t.target d).render)

theorem Figure.movesTo {t : Transposition} {f : Figure} (hf : (f.run t.source).Solid) :
    (f.run t.source).MovesTo t (f.run t.target) := by
  cases f with
  | plain r hr =>
    refine ⟨rfl, fun _ => rfl, fun _ _ => rfl, ?_⟩
    intro hk hs
    have hsym : r.isSymbol = true := hf.isSymbol_iff.mpr ⟨hk, hs⟩
    rw [hr] at hsym
    cases hsym
  | degrees ds hne hle =>
    have hsym : ChordSheet.isSymbol (t.source.spell ds) = true :=
      (isSymbol_spell_iff t.source hne).mpr hle
    refine ⟨rfl, ?_, ?_, ?_⟩
    · intro hk
      cases hk
    · intro _ hs
      rw [Figure.run, hsym] at hs
      cases hs
    · intro _ _
      exact ⟨ds, t.source.pieces_spell hne, t.target.pieces_spell hne⟩

/-- What holds of every figure in two keys holds of the runs of the two lines, one by one. -/
theorem Line.Reads.forall₂_run {k : Key} {s : List Char} {fs : List Figure}
    {R : Run → Run → Prop} (h : Line.Reads k s fs) (l : Key)
    (hR : ∀ f : Figure, (f.run k).Solid → R (f.run k) (f.run l)) :
    List.Forall₂ R (Line.runs s) (Line.runs (Figure.write l fs)) := by
  rw [h.write l, h, List.forall₂_map_left_iff, List.forall₂_map_right_iff, List.forall₂_same]
  intro f hf
  exact hR f (h.solid hf)

theorem Line.Reads.forall₂_movesTo {t : Transposition} {s : List Char} {fs : List Figure}
    (h : Line.Reads t.source s fs) :
    List.Forall₂ (Run.MovesTo t) (Line.runs s) (Line.runs (Figure.write t.target fs)) :=
  h.forall₂_run t.target fun _ => Figure.movesTo

theorem Line.Reads.countP_isSymbol {k : Key} {s : List Char} {fs : List Figure}
    (h : Line.Reads k s fs) :
    fs.countP Figure.isSymbol =
      (Line.runs s).countP fun r => r.kind == .word && isSymbol r.text := by
  have hsolid := (Line.partition_runs s).solid
  have hcongr : (Line.runs s).countP (fun r => r.kind == .word && isSymbol r.text) =
      (Line.runs s).countP Run.isSymbol :=
    List.countP_congr fun r hr => by rw [(hsolid r hr).isSymbol_eq]
  rw [hcongr, h, List.countP_map]
  exact List.countP_congr fun f _ => by rw [Function.comp_apply, Figure.isSymbol_run]

/-! ## The effect on a line -/

namespace Transposition

/-- A line is stopped by the leftmost foreign side of its leftmost symbol that has one. -/
theorem line_eq_error_iff_firstForeign {t : Transposition} {l : String} {e : TranspositionError} :
    t.line l = .error e ↔
      ∃ before word after side, Line.FirstForeign t.source l.toList before word after side ∧
        e = .invalidChord (String.ofList side) := by
  rw [line_eq_error_iff]
  constructor
  · rintro ⟨side, hside, rfl⟩
    obtain ⟨before, word, after, h⟩ := Line.findSome?_foreignSide?_eq_some_iff.mp hside
    exact ⟨before, word, after, side, h, rfl⟩
  · rintro ⟨before, word, after, side, h, rfl⟩
    exact ⟨side, h.findSome?, rfl⟩

/-- Any symbol with a foreign side stops a line, though another side may be reported. -/
theorem exists_error_of_wordAt {t : Transposition} {l : String}
    {before word after side : List Char} (hat : Line.WordAt l.toList before word after)
    (hsym : isSymbol word = true) (hmem : side ∈ Text.pieces '/' word)
    (hside : String.ofList side ∉ t.source.chordNames) : ∃ e, t.line l = .error e := by
  cases hfind : (Line.runs l.toList).findSome? (Run.foreignSide? t.source) with
  | some first => exact ⟨_, line_eq_error_iff.mpr ⟨first, hfind, rfl⟩⟩
  | none =>
    have hnone := List.findSome?_eq_none_iff.mp hfind ⟨.word, word⟩ (by simp [hat.runs_eq])
    rw [Line.foreignSide?_word hat.solid, if_pos hsym] at hnone
    exact absurd (Key.foreignSide?_eq_none_iff.mp hnone side hmem) hside

/-- **The exact effect of moving a line.** A line fails exactly if one of its maximal words is a
symbol with a side that is none of the chords of the source key, and the error names the leftmost
such side of the leftmost such word. Every other line is moved run by run, so that its runs and
those of the moved line correspond, and the symbols are counted. -/
theorem line_effect (t : Transposition) (l : String) :
    ((∃ e, t.line l = .error e) ↔
      ∃ before word after, Line.WordAt l.toList before word after ∧ isSymbol word = true ∧
        ∃ side ∈ Text.pieces '/' word, String.ofList side ∉ t.source.chordNames) ∧
    (∀ e, t.line l = .error e ↔
      ∃ before word after side, Line.FirstForeign t.source l.toList before word after side ∧
        e = .invalidChord (String.ofList side)) ∧
    ((∀ e, t.line l ≠ .error e) →
      ∃ m, t.line l = .ok m ∧
        List.Forall₂ (Run.MovesTo t) (Line.runs l.toList) (Line.runs m.text.toList) ∧
        m.chords =
          (Line.runs l.toList).countP fun r => r.kind == .word && isSymbol r.text) := by
  refine ⟨⟨?_, ?_⟩, fun e => line_eq_error_iff_firstForeign, ?_⟩
  · rintro ⟨e, he⟩
    obtain ⟨before, word, after, side, h, _⟩ := line_eq_error_iff_firstForeign.mp he
    obtain ⟨left, right, hword, hside, _⟩ := h.side
    exact ⟨before, word, after, h.wordAt, h.symbol, side, by simp [hword], hside⟩
  · rintro ⟨before, word, after, hat, hsym, side, hmem, hside⟩
    exact exists_error_of_wordAt hat hsym hmem hside
  · intro h
    cases hline : t.line l with
    | error e => exact absurd hline (h e)
    | ok m =>
      obtain ⟨fs, hfs, rfl⟩ := line_eq_ok_iff.mp hline
      refine ⟨_, rfl, ?_, hfs.countP_isSymbol⟩
      rw [String.toList_ofList]
      exact hfs.forall₂_movesTo

end Transposition

end ChordSheet
