import ChordSheet.Text.Lines
import ChordSheet.Transposition

/-!
# Words that spell degrees

The *sides* of a word are its pieces between slashes. A word is spelled in a key if every side is
a chord of the key, and then stands for a list of degrees. To transpose a word is to spell the
same degrees in another key.

* `Text.pieces_join` : pieces without separators are found again after they were joined.
* `Symbol.parse?_eq_some_iff` : a word reads as a symbol exactly if it is that symbol written.
* `Key.pieces_spell` : the sides of a spelled word are the chords on its degrees.
* `isSymbol_spell_iff` : a spelled word is a chord symbol exactly if it has at most two sides.
* `Transposition.symbol_eq_ok_iff` : a word moves exactly if it is spelled in the source key, and
  then to the word of the same degrees in the target key.
* `Transposition.symbol_eq_error_iff` : the leftmost foreign side stops a word.
-/

set_option autoImplicit false

namespace ChordSheet

/-! ## Cutting at a separator -/

namespace Text

theorem pieces_of_not_mem {sep : Char} {s : List Char} (h : sep ∉ s) : pieces sep s = [s] := by
  induction s with
  | nil => rfl
  | cons c cs ih =>
    have hc : c ≠ sep := fun e => h (by simp [e])
    have hcs : sep ∉ cs := fun e => h (List.mem_cons_of_mem _ e)
    rw [pieces, if_neg hc, ih hcs]

theorem pieces_append_cons {sep : Char} {a : List Char} (b : List Char) (h : sep ∉ a) :
    pieces sep (a ++ sep :: b) = a :: pieces sep b := by
  induction a with
  | nil => rw [List.nil_append, pieces, if_pos rfl]
  | cons c cs ih =>
    have hc : c ≠ sep := fun e => h (by simp [e])
    have hcs : sep ∉ cs := fun e => h (List.mem_cons_of_mem _ e)
    rw [List.cons_append, pieces, if_neg hc, ih hcs]

theorem join_cons_cons (sep : Char) (p q : List Char) (ps : List (List Char)) :
    join sep (p :: q :: ps) = p ++ sep :: join sep (q :: ps) := rfl

theorem pieces_join {sep : Char} {ps : List (List Char)} (hne : ps ≠ [])
    (h : ∀ p ∈ ps, sep ∉ p) : pieces sep (join sep ps) = ps := by
  induction ps with
  | nil => exact absurd rfl hne
  | cons p ps ih =>
    have hp : sep ∉ p := h p List.mem_cons_self
    cases ps with
    | nil => exact pieces_of_not_mem hp
    | cons q qs =>
      have hqs : ∀ r ∈ q :: qs, sep ∉ r := fun r hr => h r (List.mem_cons_of_mem _ hr)
      rw [join, pieces_append_cons _ hp, ih (by simp) hqs]
      simp

/-- A text is one piece, or a first piece, a separator and a text with the other pieces. -/
@[elab_as_elim]
theorem pieces_induction {motive : List Char → Prop} (sep : Char)
    (whole : ∀ s, sep ∉ s → motive s)
    (cut : ∀ a b, sep ∉ a → motive b → motive (a ++ sep :: b)) (s : List Char) : motive s := by
  by_cases h : sep ∈ s
  · obtain ⟨a, b, hs, ha⟩ := List.eq_append_cons_of_mem h
    have : b.length < s.length := by
      rw [hs, List.length_append, List.length_cons]
      omega
    rw [hs]
    exact cut a b ha (pieces_induction sep whole cut b)
  · exact whole s h
termination_by s.length

theorem cutFirst?_of_not_mem {sep : Char} {s : List Char} (h : sep ∉ s) :
    cutFirst? (· == sep) s = none := by
  induction s with
  | nil => rfl
  | cons c cs ih =>
    have hc : (c == sep) = false := by simpa using fun e => h (by simp [e])
    have hcs : sep ∉ cs := fun e => h (List.mem_cons_of_mem _ e)
    simp [cutFirst?, hc, ih hcs]

theorem cutFirst?_append_cons {sep : Char} {a : List Char} (b : List Char) (h : sep ∉ a) :
    cutFirst? (· == sep) (a ++ sep :: b) = some (a, b) := by
  induction a with
  | nil => simp [cutFirst?]
  | cons c cs ih =>
    have hc : (c == sep) = false := by simpa using fun e => h (by simp [e])
    have hcs : sep ∉ cs := fun e => h (List.mem_cons_of_mem _ e)
    simp [cutFirst?, hc, ih hcs]

theorem cutLast?_of_forall {p : Char → Bool} {s : List Char} (h : ∀ c ∈ s, p c = false) :
    cutLast? p s = none := by
  induction s with
  | nil => rfl
  | cons c cs ih =>
    rw [cutLast?, ih fun d hd => h d (List.mem_cons_of_mem _ hd)]
    simp [h c List.mem_cons_self]

theorem cutLast?_append_cons {p : Char → Bool} {sep : Char} (a : List Char) {b : List Char}
    (hsep : p sep = true) (hb : ∀ c ∈ b, p c = false) :
    cutLast? p (a ++ sep :: b) = some (a, b) := by
  induction a with
  | nil => simp [cutLast?, cutLast?_of_forall hb, hsep]
  | cons c cs ih => simp [cutLast?, ih]

theorem mem_join {sep x : Char} {ps : List (List Char)} (h : x ∈ join sep ps) :
    x = sep ∨ ∃ p ∈ ps, x ∈ p := by
  induction ps with
  | nil => cases h
  | cons p ps ih =>
    cases ps with
    | nil => exact .inr ⟨p, by simp, h⟩
    | cons q qs =>
      simp only [join, List.mem_append, List.mem_cons] at h
      rcases h with h | rfl | h
      · exact .inr ⟨p, by simp, h⟩
      · exact .inl rfl
      · rcases ih h with hs | ⟨r, hr, hx⟩
        · exact .inl hs
        · exact .inr ⟨r, List.mem_cons_of_mem _ hr, hx⟩

end Text

/-! ## The characters of a chord -/

namespace Chord

/-- The characters that chords are written with. -/
def alphabet : List Char :=
  ['C', 'D', 'E', 'F', 'G', 'A', 'B', '#', 'b', 'm', 'a', 'j', 'd', 'i',
    '0', '1', '2', '3', '4', '5', '6', '7', '8', '9']

theorem mem_alphabet_of_mem_render {c : Chord} {x : Char} (h : x ∈ c.render) : x ∈ alphabet := by
  obtain ⟨⟨note, accidental⟩, quality, digit⟩ := c
  simp only [render, List.mem_cons, List.mem_append, Option.mem_toList, Option.map_eq_some_iff]
    at h
  rcases h with rfl | (⟨s, _, rfl⟩ | hq) | ⟨d, _, rfl⟩
  · cases note <;> decide
  · cases s <;> decide
  · have hs : quality.suffix.all alphabet.contains = true := by cases quality <;> decide
    exact List.contains_iff_mem.mp (List.all_eq_true.mp hs x hq)
  · have hd : ∀ e, digitChar e ∈ alphabet := by decide
    exact hd d

theorem slash_not_mem_render (c : Chord) : '/' ∉ c.render :=
  fun h => absurd (mem_alphabet_of_mem_render h) (by decide)

end Chord

/-! ## Written symbols -/

namespace Symbol

theorem render_one (c : Chord) : render ⟨c, none⟩ = c.render := rfl

theorem render_two (c d : Chord) : render ⟨c, some d⟩ = c.render ++ '/' :: d.render := rfl

theorem parse?_render (s : Symbol) : parse? s.render = some s := by
  obtain ⟨upper, _ | bass⟩ := s
  · have hcut := Text.cutFirst?_of_not_mem (Chord.slash_not_mem_render upper)
    simp [render_one, parse?, hcut, Chord.parse?_render]
  · have hcut := Text.cutFirst?_append_cons bass.render (Chord.slash_not_mem_render upper)
    simp [render_two, parse?, hcut, Chord.parse?_render]

theorem render_of_parse? {word : List Char} {s : Symbol} (h : parse? word = some s) :
    s.render = word := by
  unfold parse? at h
  split at h
  · obtain ⟨c, hc, rfl⟩ := Option.map_eq_some_iff.mp h
    rw [render_one, ← Chord.render_of_parse? hc]
  · rename_i a b hcut
    obtain ⟨x, hx, _, rfl⟩ := Text.append_of_cutFirst? hcut
    simp only [Option.bind_eq_bind, Option.bind_eq_some_iff, Option.pure_def,
      Option.some.injEq] at h
    obtain ⟨upper, hupper, bass, hbass, rfl⟩ := h
    rw [render_two, ← Chord.render_of_parse? hupper, ← Chord.render_of_parse? hbass,
      eq_of_beq hx]

/-- **A word reads as a symbol exactly if it is that symbol written.** -/
theorem parse?_eq_some_iff {word : List Char} {s : Symbol} :
    parse? word = some s ↔ s.render = word :=
  ⟨render_of_parse?, fun h => h ▸ parse?_render s⟩

/-- The sides of a written symbol are its chords. -/
theorem pieces_render (s : Symbol) :
    Text.pieces '/' s.render = s.upper.render :: (s.bass.map Chord.render).toList := by
  obtain ⟨upper, _ | bass⟩ := s
  · exact Text.pieces_of_not_mem (Chord.slash_not_mem_render upper)
  · rw [render_two, Text.pieces_append_cons _ (Chord.slash_not_mem_render upper),
      Text.pieces_of_not_mem (Chord.slash_not_mem_render bass)]
    rfl

end Symbol

theorem isSymbol_iff_exists_render {word : List Char} :
    isSymbol word = true ↔ ∃ s : Symbol, s.render = word := by
  simp only [isSymbol, Option.isSome_iff_exists, Symbol.parse?_eq_some_iff]

/-! ## Degrees as words -/

namespace Key

/-- The word whose sides are the chords on some degrees of a key. -/
def spell (k : Key) (ds : List Degree) : List Char :=
  Text.join '/' (ds.map fun d => (chord k d).render)

@[simp]
theorem spell_singleton (k : Key) (d : Degree) : k.spell [d] = (chord k d).render := rfl

theorem spell_cons_cons (k : Key) (d e : Degree) (ds : List Degree) :
    k.spell (d :: e :: ds) = (chord k d).render ++ '/' :: k.spell (e :: ds) := rfl

theorem pieces_spell (k : Key) {ds : List Degree} (hne : ds ≠ []) :
    Text.pieces '/' (k.spell ds) = ds.map fun d => (chord k d).render := by
  apply Text.pieces_join
  · simpa using hne
  · intro p hp
    obtain ⟨d, _, rfl⟩ := List.mem_map.mp hp
    exact Chord.slash_not_mem_render _

/-- What holds of the slash and of all characters of chords holds of those of a spelled word. -/
theorem forall_mem_spell (k : Key) (ds : List Degree) {p : Char → Bool}
    (h : ('/' :: Chord.alphabet).all p = true) : ∀ c ∈ k.spell ds, p c = true := by
  intro c hc
  rw [List.all_eq_true] at h
  rcases Text.mem_join hc with rfl | ⟨side, hside, hc⟩
  · exact h '/' List.mem_cons_self
  · obtain ⟨d, _, rfl⟩ := List.mem_map.mp hside
    exact h c (List.mem_cons_of_mem _ (Chord.mem_alphabet_of_mem_render hc))

/-- A spelled word starts with the letter of a note. -/
theorem exists_letter_spell (k : Key) {ds : List Degree} (hne : ds ≠ []) :
    ∃ (n : Note) (rest : List Char), k.spell ds = n.letter :: rest := by
  match ds with
  | [] => exact absurd rfl hne
  | [d] => exact ⟨_, _, rfl⟩
  | d :: e :: es => exact ⟨_, _, rfl⟩

/-- The leftmost side of a word that is none of the chords of a key. -/
def foreignSide? (k : Key) (word : List Char) : Option (List Char) :=
  (Text.pieces '/' word).find? fun side => (degreeOf? k side).isNone

theorem degreeOf?_isSome_iff {k : Key} {side : List Char} :
    (degreeOf? k side).isSome = true ↔ String.ofList side ∈ chordNames k := by
  rw [Option.isSome_iff_exists, chordNames, List.mem_map]
  constructor
  · rintro ⟨d, hd⟩
    rw [render_of_degreeOf? hd]
    exact ⟨d, Degree.mem_all d, rfl⟩
  · rintro ⟨d, _, hd⟩
    exact ⟨d, degreeOf?_eq_some_iff.mpr (String.ofList_injective hd).symm⟩

end Key

/-- A word spelled in a key is a chord symbol exactly if it has at most two sides. -/
theorem isSymbol_spell_iff (k : Key) {ds : List Degree} (hne : ds ≠ []) :
    isSymbol (k.spell ds) = true ↔ ds.length ≤ 2 := by
  rw [isSymbol_iff_exists_render]
  constructor
  · rintro ⟨⟨upper, bass⟩, hs⟩
    have hsides := Symbol.pieces_render ⟨upper, bass⟩
    rw [hs, k.pieces_spell hne] at hsides
    have hlength := congrArg List.length hsides
    cases bass <;> simp at hlength <;> omega
  · intro hle
    match ds with
    | [] => exact absurd rfl hne
    | [d] => exact ⟨⟨Key.chord k d, none⟩, rfl⟩
    | [d, e] => exact ⟨⟨Key.chord k d, some (Key.chord k e)⟩, rfl⟩
    | _ :: _ :: _ :: _ => simp at hle

/-! ## Moving a word -/

namespace Transposition

variable {t : Transposition}

theorem symbol_of_slash_not_mem {w : List Char} (h : '/' ∉ w) : t.symbol w = t.chord w := by
  rw [symbol]
  split
  · rfl
  · rename_i hcut
    rw [Text.cutFirst?_of_not_mem h] at hcut
    cases hcut

theorem symbol_append_slash {a : List Char} (b : List Char) (h : '/' ∉ a) :
    t.symbol (a ++ '/' :: b) = (do
      let moved ← t.chord a
      let rest ← t.symbol b
      pure (moved ++ '/' :: rest)) := by
  have hcut := Text.cutFirst?_append_cons b h
  rw [symbol]
  split
  · rename_i hnone
    rw [hcut] at hnone
    cases hnone
  · rename_i upper bass hsome
    rw [hcut] at hsome
    cases hsome
    rfl

theorem chord_eq_error_iff {side : List Char} {e : TranspositionError} :
    t.chord side = .error e ↔
      (Key.degreeOf? t.source side).isNone = true ∧ e = .invalidChord (String.ofList side) := by
  unfold chord
  cases Key.degreeOf? t.source side with
  | none => simp [eq_comm]
  | some d => simp

theorem symbol_spell {ds : List Degree} (hne : ds ≠ []) :
    t.symbol (t.source.spell ds) = .ok (t.target.spell ds) := by
  induction ds with
  | nil => exact absurd rfl hne
  | cons d ds ih =>
    cases ds with
    | nil =>
      have hslash := Chord.slash_not_mem_render (Key.chord t.source d)
      rw [Key.spell_singleton, symbol_of_slash_not_mem hslash, chord_render, Key.spell_singleton]
    | cons e es =>
      have hslash := Chord.slash_not_mem_render (Key.chord t.source d)
      rw [Key.spell_cons_cons, symbol_append_slash _ hslash, chord_render, ih (by simp)]
      rfl

theorem exists_spell_of_symbol {w w' : List Char} (h : t.symbol w = .ok w') :
    ∃ ds, ds ≠ [] ∧ w = t.source.spell ds := by
  induction w using Text.pieces_induction '/' generalizing w' with
  | whole w hw =>
    rw [symbol_of_slash_not_mem hw, chord_eq_ok_iff] at h
    obtain ⟨d, rfl, _⟩ := h
    exact ⟨[d], by simp, rfl⟩
  | cut a b ha ih =>
    rw [symbol_append_slash b ha] at h
    cases hc : t.chord a with
    | error e => rw [hc] at h; cases h
    | ok u =>
      cases hb : t.symbol b with
      | error e => rw [hc, hb] at h; cases h
      | ok v =>
        obtain ⟨d, rfl, _⟩ := chord_eq_ok_iff.mp hc
        obtain ⟨es, hes, rfl⟩ := ih hb
        obtain ⟨e, es, rfl⟩ := List.exists_cons_of_ne_nil hes
        exact ⟨d :: e :: es, by simp, rfl⟩

/-- **A word moves exactly if it is spelled in the source key**, and then it becomes the word that
spells the same degrees in the target key. -/
theorem symbol_eq_ok_iff {w w' : List Char} :
    t.symbol w = .ok w' ↔ ∃ ds, ds ≠ [] ∧ w = t.source.spell ds ∧ w' = t.target.spell ds := by
  constructor
  · intro h
    obtain ⟨ds, hne, rfl⟩ := exists_spell_of_symbol h
    rw [symbol_spell hne] at h
    exact ⟨ds, hne, rfl, (Except.ok.inj h).symm⟩
  · rintro ⟨ds, hne, rfl, rfl⟩
    exact symbol_spell hne

/-- **A word that does not move is stopped by its leftmost foreign side**, whatever the target. -/
theorem symbol_eq_error_iff {w : List Char} {e : TranspositionError} :
    t.symbol w = .error e ↔
      ∃ side, t.source.foreignSide? w = some side ∧ e = .invalidChord (String.ofList side) := by
  induction w using Text.pieces_induction '/' generalizing e with
  | whole w hw =>
    rw [symbol_of_slash_not_mem hw, chord_eq_error_iff, Key.foreignSide?,
      Text.pieces_of_not_mem hw, List.find?_singleton]
    cases hd : (Key.degreeOf? t.source w).isNone <;> simp
  | cut a b ha ih =>
    rw [symbol_append_slash b ha, Key.foreignSide?, Text.pieces_append_cons b ha, List.find?_cons]
    cases hc : t.chord a with
    | error e' =>
      obtain ⟨hd, rfl⟩ := chord_eq_error_iff.mp hc
      simp [hd, bind, Except.bind, eq_comm]
    | ok u =>
      obtain ⟨d, rfl, _⟩ := chord_eq_ok_iff.mp hc
      rw [Key.degreeOf?_chord]
      cases hb : t.symbol b with
      | error e' =>
        rw [hb] at ih
        exact ih
      | ok v =>
        rw [hb] at ih
        simpa [bind, Except.bind, pure, Except.pure, Key.foreignSide?] using ih

end Transposition

end ChordSheet
