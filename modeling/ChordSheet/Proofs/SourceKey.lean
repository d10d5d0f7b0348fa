import Mathlib.Tactic.IntervalCases
import ChordSheet.Proofs.Lowercase
import ChordSheet.Sheet

/-!
# The source key of a sheet

A line is a marker exactly if its lowercase form holds the word *key*, and that is the case exactly
if three of its characters in a row spell the word: the first may be a Kelvin sign, and nothing else
outside ASCII will do. Of the markers, those with the letter of a note name a key, and the first of
them decides the source key of a sheet; no other line has any influence.

* `Line.mentionsKey_iff_lowercase` : the word is looked for in the lowercase form.
* `Line.detectKey?_eq_some_iff` : the key that a line names.
* `sourceKey?_eq_some_iff` : the first line that names a key decides.
* `Sheet.ofLines_source` : the source key of a sheet, exactly.
-/

set_option autoImplicit false

namespace ChordSheet

/-! ## The word *key* -/

namespace Line

/-- The spellings of the three letters of the word *key*. -/
def keySpellings : List (List Char) := [['k', 'K', '\u212A'], ['e', 'E'], ['y', 'Y']]

/-- Three characters in a row that spell the word *key*. -/
def SpellsKey (s : List Char) : Prop :=
  ∃ before k e y after, s = before ++ k :: e :: y :: after ∧
    k ∈ ['k', 'K', '\u212A'] ∧ e ∈ ['e', 'E'] ∧ y ∈ ['y', 'Y']

theorem forall₂_spellings_key : List.Forall₂ Text.Spellings ['k', 'e', 'y'] keySpellings := by
  refine .cons ?_ (.cons ?_ (.cons ?_ .nil))
  · exact Text.spellings_of_origins (by decide) (by decide) (by decide)
  · exact Text.spellings_of_origins (by decide) (by decide) (by decide)
  · exact Text.spellings_of_origins (by decide) (by decide) (by decide)

theorem forall₂_keySpellings_iff {word : List Char} :
    List.Forall₂ (· ∈ ·) word keySpellings ↔
      ∃ k e y, word = [k, e, y] ∧
        k ∈ ['k', 'K', '\u212A'] ∧ e ∈ ['e', 'E'] ∧ y ∈ ['y', 'Y'] := by
  simp only [keySpellings, List.forall₂_cons_right_iff, List.forall₂_nil_right_iff]
  constructor
  · rintro ⟨k, _, hk, ⟨e, _, he, ⟨y, _, hy, rfl, rfl⟩, rfl⟩, rfl⟩
    exact ⟨k, e, y, rfl, hk, he, hy⟩
  · rintro ⟨k, e, y, rfl, hk, he, hy⟩
    exact ⟨k, _, hk, ⟨e, _, he, ⟨y, _, hy, rfl, rfl⟩, rfl⟩, rfl⟩

theorem spellsKey_iff_spelled {s : List Char} : SpellsKey s ↔ Text.Spelled keySpellings s := by
  simp only [SpellsKey, Text.Spelled, forall₂_keySpellings_iff]
  constructor
  · rintro ⟨before, k, e, y, after, rfl, hspelled⟩
    exact ⟨before, [k, e, y], after, rfl, k, e, y, rfl, hspelled⟩
  · rintro ⟨before, _, after, rfl, k, e, y, rfl, hspelled⟩
    exact ⟨before, k, e, y, after, rfl, hspelled⟩

theorem mentionsKey_cons_iff {k : Char} {t : List Char} :
    mentionsKey (k :: t) = true ↔
      (∃ e y after, t = e :: y :: after ∧
        k ∈ ['k', 'K', '\u212A'] ∧ e ∈ ['e', 'E'] ∧ y ∈ ['y', 'Y']) ∨ mentionsKey t = true := by
  match t with
  | [] => simp [mentionsKey]
  | [_] => simp [mentionsKey]
  | e :: y :: after =>
    simp [mentionsKey, isLetterK, isLetterE, isLetterY, or_assoc, and_assoc]

theorem mentionsKey_iff_spellsKey {s : List Char} : mentionsKey s = true ↔ SpellsKey s := by
  rw [spellsKey_iff_spelled]
  induction s with
  | nil =>
    refine iff_of_false (by simp [mentionsKey]) ?_
    rw [← spellsKey_iff_spelled]
    rintro ⟨before, k, e, y, after, hs, _⟩
    simp at hs
  | cons a t ih =>
    rw [Text.spelled_cons_iff, ← ih, mentionsKey_cons_iff]
    simp only [forall₂_keySpellings_iff]
    refine or_congr_left ⟨?_, ?_⟩
    · rintro ⟨e, y, after, rfl, hspelled⟩
      exact ⟨[a, e, y], after, rfl, a, e, y, rfl, hspelled⟩
    · rintro ⟨_, after, hs, k, e, y, rfl, hspelled⟩
      obtain ⟨rfl, rfl⟩ : a = k ∧ t = e :: y :: after := by simpa using hs
      exact ⟨e, y, after, rfl, hspelled⟩

theorem lowercase_iff_spellsKey {s : List Char} :
    ['k', 'e', 'y'] <:+: Text.lowercase s ↔ SpellsKey s := by
  rw [spellsKey_iff_spelled]
  exact Text.infix_lowercase_iff forall₂_spellings_key (List.cons_ne_nil _ _) s

/-- **The word *key* is looked for in the lowercase form of a line.** -/
theorem mentionsKey_iff_lowercase {s : List Char} :
    mentionsKey s = true ↔ ['k', 'e', 'y'] <:+: Text.lowercase s := by
  rw [mentionsKey_iff_spellsKey, lowercase_iff_spellsKey]

/-! ## The key of a line -/

/-- A line that names a key: it spells the word, and holds the letter of a note. -/
structure NamesKey (s : List Char) : Prop where
  word : SpellsKey s
  letter : ∃ c ∈ s, 'A' ≤ c ∧ c ≤ 'G'

/-- The first of the letters C, D, E, F, G, A and B that occurs in a line is that of a key. -/
def FirstLetter (k : Key) (s : List Char) : Prop :=
  ∃ earlier later, ['C', 'D', 'E', 'F', 'G', 'A', 'B'] = earlier ++ k.letter :: later ∧
    k.letter ∈ s ∧ ∀ c ∈ earlier, c ∉ s

end Line

theorem Note.exists_letter_iff {c : Char} : (∃ n : Note, n.letter = c) ↔ 'A' ≤ c ∧ c ≤ 'G' := by
  constructor
  · rintro ⟨n, rfl⟩
    cases n <;> decide
  · rintro ⟨hA, hG⟩
    have hA : 65 ≤ c.toNat := hA
    have hG : c.toNat ≤ 71 := hG
    have hc : c = Char.ofNat c.toNat := (Char.ofNat_toNat c).symm
    interval_cases h : c.toNat
    · exact ⟨.A, hc.symm⟩
    · exact ⟨.B, hc.symm⟩
    · exact ⟨.C, hc.symm⟩
    · exact ⟨.D, hc.symm⟩
    · exact ⟨.E, hc.symm⟩
    · exact ⟨.F, hc.symm⟩
    · exact ⟨.G, hc.symm⟩

namespace Line

theorem firstLetter_iff {k : Key} {s : List Char} :
    FirstLetter k s ↔ Note.all.find? (fun n => s.contains n.letter) = some k := by
  have hall : ['C', 'D', 'E', 'F', 'G', 'A', 'B'] = Note.all.map Note.letter := rfl
  rw [FirstLetter, hall, List.find?_eq_some_iff_append, List.contains_iff_mem]
  constructor
  · rintro ⟨earlier, later, hsplit, hk, hearlier⟩
    obtain ⟨before, rest, hnotes, rfl, hrest⟩ := List.map_eq_append_iff.mp hsplit
    obtain ⟨n, after, rfl, hn, rfl⟩ := List.map_eq_cons_iff.mp hrest
    obtain rfl := Note.letter_inj.mp hn
    refine ⟨hk, before, after, hnotes, ?_⟩
    intro m hm
    simpa using hearlier m.letter (List.mem_map_of_mem hm)
  · rintro ⟨hk, before, after, hnotes, hbefore⟩
    refine ⟨before.map Note.letter, after.map Note.letter, by simp [hnotes], hk, ?_⟩
    intro c hc
    obtain ⟨m, hm, rfl⟩ := List.mem_map.mp hc
    simpa using hbefore m hm

/-- A line names the key whose letter comes first, if it spells the word. -/
theorem detectKey?_eq_some_iff {s : List Char} {k : Key} :
    detectKey? s = some k ↔ SpellsKey s ∧ FirstLetter k s := by
  rw [detectKey?, firstLetter_iff, ← mentionsKey_iff_spellsKey]
  split <;> simp_all

theorem exists_firstLetter_iff {s : List Char} :
    (∃ k, FirstLetter k s) ↔ ∃ c ∈ s, 'A' ≤ c ∧ c ≤ 'G' := by
  simp only [firstLetter_iff, ← Option.isSome_iff_exists, List.find?_isSome,
    ← Note.exists_letter_iff, List.contains_iff_mem]
  constructor
  · rintro ⟨n, _, hn⟩
    exact ⟨n.letter, hn, n, rfl⟩
  · rintro ⟨_, hn, n, rfl⟩
    exact ⟨n, Note.mem_all n, hn⟩

theorem namesKey_of_detectKey? {s : List Char} {k : Key} (h : detectKey? s = some k) :
    NamesKey s := by
  obtain ⟨hword, hletter⟩ := detectKey?_eq_some_iff.mp h
  exact ⟨hword, exists_firstLetter_iff.mp ⟨k, hletter⟩⟩

theorem detectKey?_eq_none_iff {s : List Char} : detectKey? s = none ↔ ¬ NamesKey s := by
  rw [← not_iff_not, not_not, ← Ne, Option.ne_none_iff_exists']
  constructor
  · rintro ⟨k, hk⟩
    exact namesKey_of_detectKey? hk
  · rintro ⟨hword, hletter⟩
    obtain ⟨k, hk⟩ := exists_firstLetter_iff.mpr hletter
    exact ⟨k, detectKey?_eq_some_iff.mpr ⟨hword, hk⟩⟩

end Line

/-! ## The key of a sheet -/

/-- The first line that names a key, and the key whose letter comes first in it. -/
def Sheet.FirstNamed (lines : List String) (k : Key) : Prop :=
  ∃ before l after, lines = before ++ l :: after ∧ Line.NamesKey l.toList ∧
    (∀ m ∈ before, ¬ Line.NamesKey m.toList) ∧ Line.FirstLetter k l.toList

/-- **The first line that names a key decides.** -/
theorem sourceKey?_eq_some_iff {lines : List String} {k : Key} :
    sourceKey? lines = some k ↔ Sheet.FirstNamed lines k := by
  simp only [sourceKey?, List.findSome?_eq_some_iff, Line.detectKey?_eq_none_iff]
  constructor
  · rintro ⟨before, l, after, hlines, hk, hbefore⟩
    exact ⟨before, l, after, hlines, Line.namesKey_of_detectKey? hk, hbefore,
      (Line.detectKey?_eq_some_iff.mp hk).2⟩
  · rintro ⟨before, l, after, hlines, hnames, hbefore, hfirst⟩
    exact ⟨before, l, after, hlines, Line.detectKey?_eq_some_iff.mpr ⟨hnames.word, hfirst⟩,
      hbefore⟩

theorem sourceKey?_eq_none_iff {lines : List String} :
    sourceKey? lines = none ↔ ∀ l ∈ lines, ¬ Line.NamesKey l.toList := by
  simp only [sourceKey?, List.findSome?_eq_none_iff, Line.detectKey?_eq_none_iff]

/-- What follows a line that names a key has no influence. -/
theorem sourceKey?_append_cons (before : List String) {l : String} (after : List String)
    (h : Line.NamesKey l.toList) :
    sourceKey? (before ++ l :: after) = sourceKey? (before ++ [l]) := by
  obtain ⟨k, hk⟩ : ∃ k, Line.detectKey? l.toList = some k := by
    rw [← Option.ne_none_iff_exists', Ne, Line.detectKey?_eq_none_iff, not_not]
    exact h
  simp [sourceKey?, List.findSome?_append, hk]

/-- Lines that name no key have no influence. -/
theorem sourceKey?_append_append (before : List String) {others : List String}
    (after : List String) (h : ∀ m ∈ others, ¬ Line.NamesKey m.toList) :
    sourceKey? (before ++ (others ++ after)) = sourceKey? (before ++ after) := by
  have hothers : others.findSome? (fun m => Line.detectKey? m.toList) = none :=
    sourceKey?_eq_none_iff.mpr h
  simp [sourceKey?, List.findSome?_append, hothers]

namespace Sheet

theorem map_source_ofLines (lines : List String) :
    (ofLines lines).map source =
      match sourceKey? lines with
      | some k => .ok k
      | none => .error .keyNotDetected := by
  cases h : sourceKey? lines with
  | some k =>
    have hs : ofLines lines = .ok ⟨lines, k, h⟩ := ofLines_eq_ok_iff.mpr rfl
    rw [hs]
    rfl
  | none =>
    rw [ofLines_eq_error_iff.mpr ⟨h, rfl⟩]
    rfl

/-- **The source key of a sheet, exactly.** A line is a marker exactly if its lowercase form holds
the word *key*, that is, if three of its characters in a row spell it. Some lines have a source key
exactly if one of them is a marker with the letter of a note, and then it is the key whose letter
comes first in the first such line; otherwise no key is detected. So what follows that line has no
influence, and no line that names no key has any, wherever it is put in, taken out or changed. -/
theorem ofLines_source (lines : List String) :
    (∀ l, (Line.kind l = .keyMarker ↔ ['k', 'e', 'y'] <:+: Text.lowercase l.toList) ∧
      (Line.kind l = .keyMarker ↔ Line.SpellsKey l.toList)) ∧
    (∀ k, (ofLines lines).map source = .ok k ↔ FirstNamed lines k) ∧
    ((ofLines lines).map source = .error .keyNotDetected ↔
      ∀ l ∈ lines, ¬ Line.NamesKey l.toList) ∧
    (∀ before l after after', lines = before ++ l :: after → Line.NamesKey l.toList →
      (ofLines (before ++ l :: after')).map source = (ofLines lines).map source) ∧
    (∀ before others others' after, lines = before ++ (others ++ after) →
      (∀ m ∈ others, ¬ Line.NamesKey m.toList) → (∀ m ∈ others', ¬ Line.NamesKey m.toList) →
        (ofLines (before ++ (others' ++ after))).map source = (ofLines lines).map source) := by
  refine ⟨?_, ?_, ?_, ?_, ?_⟩
  · intro l
    rw [Line.kind, Line.kindOf_eq_keyMarker_iff]
    exact ⟨Line.mentionsKey_iff_lowercase, Line.mentionsKey_iff_spellsKey⟩
  · intro k
    rw [map_source_ofLines, ← sourceKey?_eq_some_iff]
    cases sourceKey? lines <;> simp
  · rw [map_source_ofLines, ← sourceKey?_eq_none_iff]
    cases sourceKey? lines <;> simp
  · rintro before l after after' rfl h
    rw [map_source_ofLines, map_source_ofLines, sourceKey?_append_cons before after h,
      sourceKey?_append_cons before after' h]
  · rintro before others others' after rfl h h'
    rw [map_source_ofLines, map_source_ofLines, sourceKey?_append_append before after h,
      sourceKey?_append_append before after h']

end Sheet

end ChordSheet
