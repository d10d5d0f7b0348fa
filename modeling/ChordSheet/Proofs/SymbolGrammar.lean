import Mathlib.Computability.RegularExpressions
import ChordSheet.Proofs.Spelling
import ChordSheet.Text.Blank

/-!
# The grammar of chord symbols

The words that are read as chord symbols are those of a regular expression: a letter, at most one
accidental, at most one quality and at most one digit, and the same once more after a slash. The
reader takes the longest quality and never goes back; it loses no word by that, and no word can be
taken apart in two ways.

* `Chord.mem_pattern_iff` : the words of the expression for one side are the written chords.
* `Symbol.parse?_eq_some_iff` : a word reads as a symbol exactly if it is that symbol written.
* `isSymbol_grammar` : the reader accepts exactly the grammar, and words fall apart in one way.
-/

set_option autoImplicit false

namespace ChordSheet

open RegularExpression

/-! ## Regular expressions -/

namespace Pattern

/-- One of some characters. -/
def oneOf (cs : List Char) : RegularExpression Char := (cs.map char).sum

/-- The characters of a text in order. -/
def literal (s : List Char) : RegularExpression Char := (s.map char).prod

/-- What a pattern matches, or nothing. -/
def optional (p : RegularExpression Char) : RegularExpression Char := p + 1

variable {s : List Char}

theorem mem_oneOf_iff {cs : List Char} : s ∈ (oneOf cs).matches' ↔ ∃ c ∈ cs, s = [c] := by
  induction cs with
  | nil => simp [oneOf, matches'_zero]
  | cons c cs ih =>
    have hsum : oneOf (c :: cs) = char c + oneOf cs := rfl
    have hchar : s ∈ (char c).matches' ↔ s = [c] := Set.mem_singleton_iff
    rw [hsum, matches'_add, Language.mem_add, ih, hchar, List.exists_mem_cons_iff]

theorem mem_literal_iff {t : List Char} : s ∈ (literal t).matches' ↔ s = t := by
  induction t generalizing s with
  | nil => exact Language.mem_one s
  | cons c t ih =>
    have hprod : literal (c :: t) = char c * literal t := rfl
    rw [hprod, matches'_mul, Language.mem_mul]
    constructor
    · rintro ⟨a, rfl, b, hb, rfl⟩
      rw [ih.mp hb]
      rfl
    · rintro rfl
      exact ⟨[c], rfl, t, ih.mpr rfl, rfl⟩

theorem mem_optional_iff {p : RegularExpression Char} :
    s ∈ (optional p).matches' ↔ s ∈ p.matches' ∨ s = [] := by
  rw [optional, matches'_add, Language.mem_add, matches'_epsilon, Language.mem_one]

end Pattern

/-! ## One side -/

namespace Chord

open Pattern

/-- The pattern of an accidental. -/
def accidentalPattern : RegularExpression Char := optional (oneOf ['#', 'b'])

/-- The pattern of a quality. -/
def qualityPattern : RegularExpression Char :=
  optional (literal ['m'] + literal ['m', 'a', 'j'] + literal ['d', 'i', 'm'])

/-- The pattern of a digit. -/
def digitPattern : RegularExpression Char :=
  optional (oneOf ['0', '1', '2', '3', '4', '5', '6', '7', '8', '9'])

/-- The pattern of one side of a symbol. -/
def pattern : RegularExpression Char :=
  oneOf ['A', 'B', 'C', 'D', 'E', 'F', 'G'] * accidentalPattern * qualityPattern * digitPattern

variable {s : List Char}

theorem mem_accidentalPattern_iff :
    s ∈ accidentalPattern.matches' ↔
      ∃ a : Option Accidental, s = (a.map Accidental.sign).toList := by
  rw [accidentalPattern, mem_optional_iff, mem_oneOf_iff]
  constructor
  · rintro (⟨c, hc, rfl⟩ | rfl)
    · rcases List.mem_pair.mp hc with rfl | rfl
      · exact ⟨some .sharp, rfl⟩
      · exact ⟨some .flat, rfl⟩
    · exact ⟨none, rfl⟩
  · rintro ⟨_ | a, rfl⟩
    · exact .inr rfl
    · cases a <;> exact .inl ⟨_, by decide, rfl⟩

theorem mem_qualityPattern_iff :
    s ∈ qualityPattern.matches' ↔ ∃ q : Quality, s = q.suffix := by
  rw [qualityPattern, mem_optional_iff, matches'_add, matches'_add, Language.mem_add,
    Language.mem_add, mem_literal_iff, mem_literal_iff, mem_literal_iff]
  constructor
  · rintro (((rfl | rfl) | rfl) | rfl)
    · exact ⟨.minor, rfl⟩
    · exact ⟨.maj, rfl⟩
    · exact ⟨.dim, rfl⟩
    · exact ⟨.plain, rfl⟩
  · rintro ⟨q, rfl⟩
    cases q <;> simp [Quality.suffix]

theorem exists_digitChar_iff {c : Char} :
    (∃ d, digitChar d = c) ↔ c ∈ ['0', '1', '2', '3', '4', '5', '6', '7', '8', '9'] := by
  have hdigits : ['0', '1', '2', '3', '4', '5', '6', '7', '8', '9'] = digits.map digitChar := rfl
  have hall : ∀ d, d ∈ digits := by decide
  rw [hdigits, List.mem_map]
  exact ⟨fun ⟨d, hd⟩ => ⟨d, hall d, hd⟩, fun ⟨d, _, hd⟩ => ⟨d, hd⟩⟩

theorem mem_digitPattern_iff :
    s ∈ digitPattern.matches' ↔ ∃ d : Option (Fin 10), s = (d.map digitChar).toList := by
  rw [digitPattern, mem_optional_iff, mem_oneOf_iff]
  constructor
  · rintro (⟨c, hc, rfl⟩ | rfl)
    · obtain ⟨d, rfl⟩ := exists_digitChar_iff.mpr hc
      exact ⟨some d, rfl⟩
    · exact ⟨none, rfl⟩
  · rintro ⟨_ | d, rfl⟩
    · exact .inr rfl
    · exact .inl ⟨_, exists_digitChar_iff.mp ⟨d, rfl⟩, rfl⟩

theorem exists_letter_iff_mem {c : Char} :
    (∃ n : Note, n.letter = c) ↔ c ∈ ['A', 'B', 'C', 'D', 'E', 'F', 'G'] := by
  constructor
  · rintro ⟨n, rfl⟩
    cases n <;> decide
  · intro hc
    have hall : ['A', 'B', 'C', 'D', 'E', 'F', 'G'].all (fun x => (Note.ofLetter? x).isSome) =
        true := by decide
    obtain ⟨n, hn⟩ := Option.isSome_iff_exists.mp (List.all_eq_true.mp hall c hc)
    exact ⟨n, Note.letter_of_ofLetter? hn⟩

/-- **The words of the pattern are the written chords.** -/
theorem mem_pattern_iff : s ∈ pattern.matches' ↔ ∃ c : Chord, c.render = s := by
  simp only [pattern, matches'_mul, Language.mem_mul, mem_oneOf_iff, mem_accidentalPattern_iff,
    mem_qualityPattern_iff, mem_digitPattern_iff]
  constructor
  · rintro ⟨_, ⟨_, ⟨_, ⟨x, hx, rfl⟩, _, ⟨a, rfl⟩, rfl⟩, _, ⟨q, rfl⟩, rfl⟩, _, ⟨d, rfl⟩, rfl⟩
    obtain ⟨n, rfl⟩ := exists_letter_iff_mem.mpr hx
    exact ⟨⟨⟨n, a⟩, q, d⟩, by simp [render]⟩
  · rintro ⟨⟨⟨n, a⟩, q, d⟩, rfl⟩
    refine ⟨_, ⟨_, ⟨_, ⟨n.letter, exists_letter_iff_mem.mp ⟨n, rfl⟩, rfl⟩, _, ⟨a, rfl⟩, rfl⟩, _,
      ⟨q, rfl⟩, rfl⟩, _, ⟨d, rfl⟩, ?_⟩
    simp [render]

end Chord

/-! ## One side or two -/

namespace Symbol

/-- The pattern of a symbol. -/
def pattern : RegularExpression Char :=
  Chord.pattern * Pattern.optional (char '/' * Chord.pattern)

/-- **The words of the pattern are the written symbols.** -/
theorem mem_pattern_iff {word : List Char} :
    word ∈ pattern.matches' ↔ ∃ s : Symbol, s.render = word := by
  have hslash : ∀ t, t ∈ (char '/' * Chord.pattern).matches' ↔
      ∃ d : Chord, '/' :: d.render = t := by
    intro t
    rw [matches'_mul, Language.mem_mul]
    simp only [Chord.mem_pattern_iff]
    constructor
    · rintro ⟨_, rfl, _, ⟨d, rfl⟩, rfl⟩
      exact ⟨d, rfl⟩
    · rintro ⟨d, rfl⟩
      exact ⟨['/'], rfl, d.render, ⟨d, rfl⟩, rfl⟩
  rw [pattern, matches'_mul, Language.mem_mul]
  simp only [Chord.mem_pattern_iff, Pattern.mem_optional_iff, hslash]
  constructor
  · rintro ⟨_, ⟨c, rfl⟩, _, ⟨d, rfl⟩ | rfl, rfl⟩
    · exact ⟨⟨c, some d⟩, render_two c d⟩
    · exact ⟨⟨c, none⟩, by rw [render_one, List.append_nil]⟩
  · rintro ⟨⟨c, _ | d⟩, rfl⟩
    · exact ⟨_, ⟨c, rfl⟩, [], .inr rfl, by rw [render_one, List.append_nil]⟩
    · exact ⟨_, ⟨c, rfl⟩, _, .inl ⟨d, rfl⟩, (render_two c d).symm⟩

theorem isBlank_eq_false_of_mem_render {s : Symbol} {x : Char} (h : x ∈ s.render) :
    Text.isBlank x = false := by
  have hall : ('/' :: Chord.alphabet).all (fun c => !Text.isBlank c) = true := by decide
  have hmem : x ∈ '/' :: Chord.alphabet := by
    obtain ⟨upper, _ | bass⟩ := s
    · exact List.mem_cons_of_mem _ (Chord.mem_alphabet_of_mem_render h)
    · rw [render_two, List.mem_append, List.mem_cons] at h
      rcases h with h | rfl | h
      · exact List.mem_cons_of_mem _ (Chord.mem_alphabet_of_mem_render h)
      · exact List.mem_cons_self
      · exact List.mem_cons_of_mem _ (Chord.mem_alphabet_of_mem_render h)
  simpa using List.all_eq_true.mp hall x hmem

end Symbol

/-- **The reader accepts exactly the grammar.** A word is a chord symbol exactly if the pattern
matches the whole of it, that is, if it is one written chord, or two with a slash between them.
Such a word is taken apart in one way only, and no blank or line break stands in it. -/
theorem isSymbol_grammar (word : List Char) :
    (isSymbol word = true ↔ word ∈ Symbol.pattern.matches') ∧
    (isSymbol word = true ↔
      (∃ c : Chord, word = c.render) ∨ ∃ c d : Chord, word = c.render ++ '/' :: d.render) ∧
    (isSymbol word = true → ∃! s : Symbol, s.render = word) ∧
    (isSymbol word = true → ∀ x ∈ word, Text.isBlank x = false) := by
  rw [Symbol.mem_pattern_iff, isSymbol_iff_exists_render]
  refine ⟨Iff.rfl, ⟨?_, ?_⟩, ?_, ?_⟩
  · rintro ⟨⟨c, _ | d⟩, rfl⟩
    · exact .inl ⟨c, rfl⟩
    · exact .inr ⟨c, d, rfl⟩
  · rintro (⟨c, rfl⟩ | ⟨c, d, rfl⟩)
    · exact ⟨⟨c, none⟩, rfl⟩
    · exact ⟨⟨c, some d⟩, rfl⟩
  · rintro ⟨s, hs⟩
    refine ⟨s, hs, fun s' hs' => ?_⟩
    rw [← Symbol.parse?_eq_some_iff] at hs hs'
    exact Option.some.inj (hs'.symm.trans hs)
  · rintro ⟨s, rfl⟩ x hx
    exact Symbol.isBlank_eq_false_of_mem_render hx

end ChordSheet
