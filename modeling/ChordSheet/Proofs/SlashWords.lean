import ChordSheet.Proofs.LineEffect

/-!
# Words with any number of slashes

A word is moved by cutting it at its first slash and moving both sides, which may hold further
slashes on their turn. That comes to the same as cutting it at all slashes at once, moving each
piece from left to right, and putting the slashes back. The pieces may be empty, and there may be
more than two of them: the grammar of symbols does not matter here.

* `Transposition.symbol_eq_cut` : the recursion on both sides of the first slash.
* `Transposition.symbol_eq_pieces` : the word piece by piece.
* `Transposition.symbol_effect` : when a word moves, to what, and what stops it otherwise.
-/

set_option autoImplicit false

namespace ChordSheet

namespace Transposition

variable {t : Transposition}

/-- Both sides of the first slash are moved by the same rule. -/
theorem symbol_eq_cut (t : Transposition) (word : List Char) :
    t.symbol word =
      (match Text.cutFirst? (· == '/') word with
        | none => t.chord word
        | some (upper, bass) => do
          let movedUpper ← t.symbol upper
          let movedBass ← t.symbol bass
          pure (movedUpper ++ '/' :: movedBass)) := by
  cases hcut : Text.cutFirst? (· == '/') word with
  | none =>
    apply symbol_of_slash_not_mem
    intro hslash
    have hno := Text.cutFirst?_eq_none hcut '/' hslash
    simp at hno
  | some sides =>
    obtain ⟨upper, bass⟩ := sides
    obtain ⟨c, hc, hupper, rfl⟩ := Text.append_of_cutFirst? hcut
    obtain rfl : c = '/' := eq_of_beq hc
    have hslash : '/' ∉ upper := by
      intro hmem
      have hno := hupper '/' hmem
      simp at hno
    rw [symbol_append_slash bass hslash, ← symbol_of_slash_not_mem hslash]

/-- **A word is moved piece by piece**, from left to right. -/
theorem symbol_eq_pieces (t : Transposition) (word : List Char) :
    t.symbol word = ((Text.pieces '/' word).mapM t.chord).map (Text.join '/') := by
  induction word using Text.pieces_induction '/' with
  | whole w hw =>
    rw [symbol_of_slash_not_mem hw, Text.pieces_of_not_mem hw]
    cases h : t.chord w <;> simp [h, bind, Except.bind, Except.map, pure, Except.pure, Text.join]
  | cut a b ha ih =>
    obtain ⟨p, ps, hps⟩ := List.exists_cons_of_ne_nil (Text.pieces_ne_nil '/' b)
    rw [symbol_append_slash b ha, ih, Text.pieces_append_cons b ha, hps]
    simp only [List.mapM_cons]
    cases t.chord a with
    | error e => rfl
    | ok moved =>
      cases t.chord p with
      | error e => rfl
      | ok q =>
        cases ps.mapM t.chord with
        | error e => rfl
        | ok qs => rfl

theorem pieces_eq_map_iff {k : Key} {word : List Char} {ds : List Degree} :
    Text.pieces '/' word = ds.map (fun d => (Key.chord k d).render) ↔
      ds ≠ [] ∧ word = k.spell ds := by
  constructor
  · intro h
    refine ⟨?_, ?_⟩
    · rintro rfl
      exact Text.pieces_ne_nil '/' word h
    · rw [Key.spell, ← h, Text.join_pieces]
  · rintro ⟨hne, rfl⟩
    exact k.pieces_spell hne

theorem exists_ok_iff {word : List Char} :
    (∃ moved, t.symbol word = .ok moved) ↔
      ∀ p ∈ Text.pieces '/' word, String.ofList p ∈ t.source.chordNames := by
  rw [← Key.foreignSide?_eq_none_iff]
  constructor
  · rintro ⟨moved, h⟩
    exact foreignSide?_eq_none_of_symbol h
  · intro hnone
    cases h : t.symbol word with
    | ok moved => exact ⟨moved, rfl⟩
    | error e =>
      obtain ⟨side, hside, _⟩ := symbol_eq_error_iff.mp h
      rw [hnone] at hside
      cases hside

/-- What stops a word is one of its pieces, never a text with a slash. -/
theorem slash_not_mem_of_firstForeign {k : Key} {word side : List Char}
    (h : k.FirstForeign word side) : '/' ∉ side := by
  obtain ⟨left, right, hpieces, _, _⟩ := h
  exact Text.not_sep_mem_pieces (s := word) (by simp [hpieces])

/-- **What becomes of a word with any number of slashes.** The recursion on both sides of the
first slash moves the pieces between all slashes, one after the other. It succeeds exactly if every
piece is the name of a chord of the source key, and then gives the chords on the same degrees of
the target key with the slashes between them; otherwise it fails with the leftmost piece that is
none, and not with a longer part of the word. A word that was moved moves on to a third key as it
does from the source key. -/
theorem symbol_effect (t : Transposition) (word : List Char) :
    t.symbol word =
      (match Text.cutFirst? (· == '/') word with
        | none => t.chord word
        | some (upper, bass) => do
          let movedUpper ← t.symbol upper
          let movedBass ← t.symbol bass
          pure (movedUpper ++ '/' :: movedBass)) ∧
    t.symbol word = ((Text.pieces '/' word).mapM t.chord).map (Text.join '/') ∧
    ((∃ moved, t.symbol word = .ok moved) ↔
      ∀ p ∈ Text.pieces '/' word, String.ofList p ∈ t.source.chordNames) ∧
    (∀ moved, t.symbol word = .ok moved ↔
      ∃ ds : List Degree,
        Text.pieces '/' word = ds.map (fun d => (Key.chord t.source d).render) ∧
        moved = Text.join '/' (ds.map fun d => (Key.chord t.target d).render)) ∧
    (∀ e, t.symbol word = .error e ↔
      ∃ side, t.source.FirstForeign word side ∧ '/' ∉ side ∧
        e = .invalidChord (String.ofList side)) ∧
    (∀ moved, t.symbol word = .ok moved → ∀ c,
      Transposition.symbol ⟨t.target, c⟩ moved = Transposition.symbol ⟨t.source, c⟩ word) := by
  refine ⟨symbol_eq_cut t word, symbol_eq_pieces t word, exists_ok_iff, ?_, ?_, ?_⟩
  · intro moved
    simp only [symbol_eq_ok_iff, pieces_eq_map_iff, and_assoc]
    rfl
  · intro e
    rw [symbol_eq_error_iff]
    constructor
    · rintro ⟨side, hside, rfl⟩
      have hfirst := Key.foreignSide?_eq_some_iff.mp hside
      exact ⟨side, hfirst, slash_not_mem_of_firstForeign hfirst, rfl⟩
    · rintro ⟨side, hfirst, _, rfl⟩
      exact ⟨side, Key.foreignSide?_eq_some_iff.mpr hfirst, rfl⟩
  · intro moved h c
    obtain ⟨ds, hne, rfl, rfl⟩ := symbol_eq_ok_iff.mp h
    exact (symbol_spell (t := ⟨t.target, c⟩) hne).trans (symbol_spell (t := ⟨t.source, c⟩) hne).symm

end Transposition

end ChordSheet
