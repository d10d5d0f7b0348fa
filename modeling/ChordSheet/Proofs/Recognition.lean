import ChordSheet.Proofs.LineEffect

/-!
# Which words of a line are moved

The words to be moved are chosen by the grammar of symbols, and are moved by the names of the
chords of a key. The two describe chords apart from each other: the names have no digits and no
`maj`, the grammar has no more than one slash. They agree as far as they can. A word that can be
moved is a symbol exactly if it has at most one slash, and so is the word that it is moved to. A
line therefore moves every word that can be moved, save those with several slashes, and what it
writes as a symbol is one in every later pass.

* `Transposition.isSymbol_iff_of_symbol`, `Transposition.isSymbol_moved_iff` : a word that can be
  moved, and the word that it is moved to, as symbols.
* `Transposition.map_isSymbol_passes` : passes keep which runs are symbols.
* `Transposition.symbols_recognised` : grammar and names agree, on words and on lines.
-/

set_option autoImplicit false

namespace ChordSheet

theorem Text.length_pieces (sep : Char) (s : List Char) :
    (Text.pieces sep s).length = s.count sep + 1 := by
  induction s using Text.pieces_induction sep with
  | whole s hs => rw [Text.pieces_of_not_mem hs, List.count_eq_zero.mpr hs, List.length_singleton]
  | cut a b ha ih =>
    rw [Text.pieces_append_cons b ha, List.length_cons, ih, List.count_append,
      List.count_eq_zero.mpr ha, List.count_cons_self, Nat.zero_add]

namespace Key

theorem count_slash_spell (k : Key) {ds : List Degree} (hne : ds ≠ []) :
    (k.spell ds).count '/' + 1 = ds.length := by
  rw [← Text.length_pieces, k.pieces_spell hne, List.length_map]

theorem isSymbol_spell_iff_count (k : Key) {ds : List Degree} (hne : ds ≠ []) :
    isSymbol (k.spell ds) = true ↔ (k.spell ds).count '/' ≤ 1 := by
  have hcount := k.count_slash_spell hne
  rw [isSymbol_spell_iff k hne]
  omega

end Key

namespace Transposition

variable {t : Transposition} {word moved : List Char}

/-! ## Words -/

theorem count_slash_of_symbol (h : t.symbol word = .ok moved) :
    moved.count '/' = word.count '/' := by
  obtain ⟨ds, hne, rfl, rfl⟩ := symbol_eq_ok_iff.mp h
  have hsource := t.source.count_slash_spell hne
  have htarget := t.target.count_slash_spell hne
  omega

/-- A word that can be moved is a symbol exactly if it has at most one slash. -/
theorem isSymbol_iff_of_symbol (h : t.symbol word = .ok moved) :
    isSymbol word = true ↔ word.count '/' ≤ 1 := by
  obtain ⟨ds, hne, rfl, -⟩ := symbol_eq_ok_iff.mp h
  exact t.source.isSymbol_spell_iff_count hne

/-- The word that a word is moved to is a symbol under the same condition. -/
theorem isSymbol_moved_iff (h : t.symbol word = .ok moved) :
    isSymbol moved = true ↔ word.count '/' ≤ 1 := by
  rw [← count_slash_of_symbol h]
  obtain ⟨ds, hne, -, rfl⟩ := symbol_eq_ok_iff.mp h
  exact t.target.isSymbol_spell_iff_count hne

end Transposition

/-! ## Lines -/

/-- What a line makes of a run that could be moved as a word: with at most one slash it is taken
for a symbol and moved, with more it is passed over. Symbols stay symbols, and no other run becomes
one. -/
structure Run.Considered (t : Transposition) (r q : Run) : Prop where
  isSymbol_eq : q.isSymbol = r.isSymbol
  taken : r.kind = .word → ∀ moved, t.symbol r.text = .ok moved → r.text.count '/' ≤ 1 →
    r.isSymbol = true ∧ q.text = moved
  passed_over : r.kind = .word → ∀ moved, t.symbol r.text = .ok moved → 1 < r.text.count '/' →
    r.isSymbol = false ∧ q.text = r.text

theorem Figure.considered {t : Transposition} {f : Figure} (hf : (f.run t.source).Solid) :
    (f.run t.source).Considered t (f.run t.target) := by
  refine ⟨by rw [isSymbol_run, isSymbol_run], ?_, ?_⟩
  · intro hk moved hm hle
    have hsym : (f.run t.source).isSymbol = true :=
      hf.isSymbol_iff.mpr ⟨hk, (Transposition.isSymbol_iff_of_symbol hm).mpr hle⟩
    refine ⟨hsym, ?_⟩
    cases f with
    | plain r hr => exact absurd hsym (by rw [run, hr]; exact Bool.false_ne_true)
    | degrees ds hne _ => exact Except.ok.inj ((Transposition.symbol_spell hne).symm.trans hm)
  · intro _ moved hm hlt
    cases f with
    | plain r hr => exact ⟨hr, rfl⟩
    | degrees ds hne hle =>
      have hcount := t.source.count_slash_spell hne
      have hslashes : 1 < (t.source.spell ds).count '/' := hlt
      omega

namespace Transposition

variable {t : Transposition} {l last : String} {m : MovedLine}

theorem forall₂_considered (h : t.line l = .ok m) :
    List.Forall₂ (Run.Considered t) (Line.runs l.toList) (Line.runs m.text.toList) := by
  obtain ⟨fs, hfs, rfl⟩ := line_eq_ok_iff.mp h
  rw [String.toList_ofList]
  exact hfs.forall₂_run t.target fun _ => Figure.considered

/-- Moves a line by one transposition after the other. -/
def passes : List Transposition → String → Except TranspositionError String
  | [], l => .ok l
  | t :: ts, l => do
    let moved ← t.line l
    passes ts moved.text

/-- **One pass keeps which runs are symbols.** -/
theorem map_isSymbol_line (h : t.line l = .ok m) :
    (Line.runs m.text.toList).map Run.isSymbol = (Line.runs l.toList).map Run.isSymbol := by
  obtain ⟨fs, hfs, rfl⟩ := line_eq_ok_iff.mp h
  have hmoved : Line.runs (Figure.write t.target fs) = fs.map (Figure.run t.target) :=
    hfs.write t.target
  rw [String.toList_ofList, hmoved, hfs, List.map_map, List.map_map]
  refine List.map_congr_left fun f _ => ?_
  rw [Function.comp_apply, Function.comp_apply, Figure.isSymbol_run, Figure.isSymbol_run]

/-- **Passes keep which runs are symbols**, whatever their keys. -/
theorem map_isSymbol_passes {ts : List Transposition} (h : passes ts l = .ok last) :
    (Line.runs last.toList).map Run.isSymbol = (Line.runs l.toList).map Run.isSymbol := by
  induction ts generalizing l with
  | nil =>
    cases h
    rfl
  | cons t ts ih =>
    cases hm : t.line l with
    | error e =>
      rw [passes, hm] at h
      cases h
    | ok m =>
      rw [passes, hm] at h
      rw [ih h, map_isSymbol_line hm]

/-! ## Grammar and names -/

/-- **The grammar of symbols and the names of chords agree.** A word that can be moved has as many
slashes afterwards as before, and both words are symbols exactly if that is at most one. So a line
moves every word that can be moved and has no more than one slash, and passes over the others; and
in any later passes over the moved line, whatever their keys, the same runs are symbols again. -/
theorem symbols_recognised (t : Transposition) :
    (∀ word moved, t.symbol word = .ok moved →
      moved.count '/' = word.count '/' ∧
      (isSymbol word = true ↔ word.count '/' ≤ 1) ∧
      (isSymbol moved = true ↔ word.count '/' ≤ 1)) ∧
    (∀ l m, t.line l = .ok m →
      List.Forall₂ (Run.Considered t) (Line.runs l.toList) (Line.runs m.text.toList) ∧
      ∀ ts last, passes ts m.text = .ok last →
        (Line.runs last.toList).map Run.isSymbol = (Line.runs l.toList).map Run.isSymbol) := by
  refine ⟨?_, ?_⟩
  · intro word moved h
    exact ⟨count_slash_of_symbol h, isSymbol_iff_of_symbol h, isSymbol_moved_iff h⟩
  · intro l m h
    refine ⟨forall₂_considered h, ?_⟩
    intro ts last hlast
    rw [map_isSymbol_passes hlast, map_isSymbol_line h]

/-- A word with three sides could be moved and is passed over; a slash symbol beside it is moved by
every pass. -/
theorem symbols_recognised_three_sides :
    symbol ⟨.C, .D⟩ "C/G/F".toList = .ok "D/A/G".toList ∧
      ¬ isSymbol "C/G/F".toList = true ∧ ¬ isSymbol "D/A/G".toList = true ∧
      line ⟨.C, .D⟩ "C/G/F  Am/C" = .ok ⟨"C/G/F  Bm/D", 1⟩ ∧
      passes [⟨.D, .E⟩, ⟨.E, .G⟩] "C/G/F  Bm/D" = .ok "C/G/F  Em/G" ∧
      (Line.runs "C/G/F  Em/G".toList).map Run.isSymbol = [false, false, true] := by
  have hsymbol : symbol ⟨.C, .D⟩ "C/G/F".toList = .ok "D/A/G".toList := by decide +kernel
  have hline : line ⟨.C, .D⟩ "C/G/F  Am/C" = .ok ⟨"C/G/F  Bm/D", 1⟩ := by decide +kernel
  have hpasses : passes [⟨.D, .E⟩, ⟨.E, .G⟩] "C/G/F  Bm/D" = .ok "C/G/F  Em/G" := by
    decide +kernel
  obtain ⟨hwords, hlines⟩ := symbols_recognised ⟨.C, .D⟩
  obtain ⟨-, hword, hmoved⟩ := hwords _ _ hsymbol
  refine ⟨hsymbol, ?_, ?_, hline, hpasses, ?_⟩
  · rw [hword]
    decide
  · rw [hmoved]
    decide
  · rw [(hlines _ _ hline).2 _ _ hpasses]
    decide

end Transposition

end ChordSheet
