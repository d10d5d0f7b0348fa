import ChordSheet.Note
import ChordSheet.Proofs.Lowercase
import ChordSheet.Proofs.Margins
import ChordSheet.Text.Uppercase

/-!
# Texts that name a key

A key is named by its letter in either case, with blanks around it, and by nothing else. To read a
text is the same as to take the uppercase form of what trimming leaves of it and to look for the
letter of a key there: of all characters, only the two letters of a key have its letter for their
uppercase form, and a longer text, or a character with a longer form, has no single letter.

* `Key.spelt_iff_upperChar` : the characters with the letter of a key for their uppercase form.
* `Key.parse_eq_ok_iff` : a text that is read is one letter, blanks apart.
* `Key.parse_eq_uppercase` : reading a text looks at its uppercase form.
* `Key.parse_spellings` : what is read as a key, and what is not.
-/

set_option autoImplicit false

namespace ChordSheet

namespace Text

/-- Only a single character has a form of one character. -/
theorem uppercase_eq_singleton_iff {s : List Char} {d : Char} :
    uppercase s = [d] ↔ ∃ c, s = [c] ∧ upperChar c = [d] := by
  constructor
  · intro h
    have hlength := length_le_length_uppercase s
    rw [h] at hlength
    match s with
    | [] => cases h
    | [c] => exact ⟨c, rfl, by simpa [uppercase] using h⟩
    | _ :: _ :: _ => simp at hlength
  · rintro ⟨c, rfl, hc⟩
    simpa [uppercase] using hc

end Text

theorem Note.ofLetter?_eq_some_iff {c : Char} {n : Note} : ofLetter? c = some n ↔ n.letter = c :=
  ⟨letter_of_ofLetter?, fun h => h ▸ ofLetter?_letter n⟩

namespace Key

/-! ## The two letters of a key -/

/-- The letter of a key, in either case. -/
def Spelt (k : Key) (c : Char) : Prop := c = k.letter ∨ c = k.letter.toLower

namespace Spelt

variable {k : Key} {c : Char}

theorem parse (h : k.Spelt c) : Key.parse c.toString = .ok k := by
  rcases h with rfl | rfl <;> cases k <;> rfl

theorem isBlank (h : k.Spelt c) : Text.isBlank c = false := by
  rcases h with rfl | rfl <;> cases k <;> decide

end Spelt

/-- A letter of a key is what the case map of ASCII takes to the letter of the key. -/
theorem spelt_iff_toUpper {k : Key} {c : Char} : k.Spelt c ↔ c.toUpper = k.letter := by
  constructor
  · rintro (rfl | rfl) <;> cases k <;> decide
  · intro h
    unfold Char.toUpper at h
    split at h
    · rename_i hcase
      -- `toUpper` subtracts 32 by adding `2 ^ 32 - 32` to a number of 32 bits
      have ha : 97 ≤ c.toNat := hcase.1
      have hz : c.toNat ≤ 122 := hcase.2
      have hraised : (c.toNat + 4294967264) % 4294967296 = k.letter.toNat := by
        simpa using congrArg Char.toNat h
      have hlower : k.letter.toLower.toNat = k.letter.toNat + 32 := by cases k <;> rfl
      refine .inr (Char.toNat_inj.mp ?_)
      omega
    · exact .inl h

/-- **Only the two letters of a key have its letter for their uppercase form.** -/
theorem spelt_iff_upperChar {k : Key} {c : Char} : k.Spelt c ↔ Text.upperChar c = [k.letter] := by
  constructor
  · rintro (rfl | rfl) <;> cases k <;> decide +kernel
  · intro h
    have horigins : Text.CaseRow.origins Text.upperRows k.letter.toNat =
        [k.letter.toLower.toNat] := by
      cases k <;> decide +kernel
    have hzero : k.letter ≠ '\x00' := by cases k <;> decide
    have hform := Text.toNat_eq_of_ofNat_eq (Text.formIn_of_upperChar h) hzero
    rcases Text.CaseRow.mem_origins hform with hself | horigin
    · exact .inl (Char.toNat_inj.mp hself)
    · rw [horigins, List.mem_singleton] at horigin
      exact .inr (Char.toNat_inj.mp horigin)

/-! ## Reading a key -/

/-- A text is read as a key exactly if trimming leaves one of the two letters of the key. -/
theorem parse_eq_ok_iff {s : String} {k : Key} :
    parse s = .ok k ↔ ∃ c, Text.trim s.toList = [c] ∧ k.Spelt c := by
  simp only [spelt_iff_toUpper]
  unfold parse
  split
  · rename_i c hc
    simp only [hc, List.cons.injEq, and_true, exists_eq_left']
    cases hletter : Note.ofLetter? c.toUpper with
    | none =>
      refine iff_of_false (by simp) fun h => ?_
      rw [Note.ofLetter?_eq_some_iff.mpr h.symm] at hletter
      cases hletter
    | some n =>
      rw [← Note.letter_of_ofLetter? hletter, Note.letter_inj]
      simp
  · rename_i hlong
    refine iff_of_false (by simp) ?_
    rintro ⟨c, hc, _⟩
    exact hlong c hc

/-- A text that is not read is the one in the error, as it was given. -/
theorem parse_eq_error_iff {s : String} {e : TranspositionError} :
    parse s = .error e ↔ (∀ k, parse s ≠ .ok k) ∧ e = .unsupportedKey s := by
  unfold parse
  split
  · split <;> simp [eq_comm]
  · simp [eq_comm]

/-- The key that has a text for its letter. -/
def ofName? : List Char → Option Key
  | [c] => Note.ofLetter? c
  | _ => none

theorem ofName?_eq_some_iff {s : List Char} {k : Key} : ofName? s = some k ↔ s = [k.letter] := by
  unfold ofName?
  split
  · rw [Note.ofLetter?_eq_some_iff, List.singleton_inj, eq_comm]
  · rename_i hlong
    exact iff_of_false (by simp) (hlong _)

/-- **To read a text is to look for the letter of a key in its uppercase form**, margins apart. -/
theorem parse_eq_uppercase (s : String) :
    parse s = match ofName? (Text.uppercase (Text.trim s.toList)) with
      | some k => .ok k
      | none => .error (.unsupportedKey s) := by
  have hsome : ∀ k, ofName? (Text.uppercase (Text.trim s.toList)) = some k ↔ parse s = .ok k := by
    intro k
    rw [ofName?_eq_some_iff, Text.uppercase_eq_singleton_iff, parse_eq_ok_iff]
    simp only [spelt_iff_upperChar]
  cases hname : ofName? (Text.uppercase (Text.trim s.toList)) with
  | some k => exact (hsome k).mp hname
  | none =>
    refine parse_eq_error_iff.mpr ⟨fun k hk => ?_, rfl⟩
    rw [(hsome k).mpr hk] at hname
    cases hname

/-- A text that spells a key: one of its two letters, with blanks around it. -/
def Spells (s : List Char) (k : Key) : Prop :=
  ∃ before c after, s = before ++ c :: after ∧ Text.allBlank before = true ∧
    Text.allBlank after = true ∧ k.Spelt c

theorem spells_iff {s : List Char} {k : Key} :
    Spells s k ↔ ∃ c, Text.trim s = [c] ∧ k.Spelt c := by
  constructor
  · rintro ⟨before, c, after, rfl, hbefore, hafter, hc⟩
    have hletter : Text.Trimmed [c] := Text.trimmed_of_forall (by simpa using hc.isBlank)
    exact ⟨c, Text.trim_eq_iff.mpr ⟨hletter, before, after, rfl, hbefore, hafter⟩, hc⟩
  · rintro ⟨c, htrim, hc⟩
    obtain ⟨-, before, after, rfl, hbefore, hafter⟩ := Text.trim_eq_iff.mp htrim
    exact ⟨before, c, after, rfl, hbefore, hafter, hc⟩

/-- **What is read as a key, and what is not.** Reading takes the uppercase form of a text without
its margins and looks for a single letter there. So it succeeds exactly on the letters of the keys
in either case, with blanks around them; everything else is refused with the text as it was given,
also a character with a longer form, whatever letter that starts with. -/
theorem parse_spellings (s : String) :
    (parse s = match ofName? (Text.uppercase (Text.trim s.toList)) with
      | some k => .ok k
      | none => .error (.unsupportedKey s)) ∧
    (∀ k, parse s = .ok k ↔ Spells s.toList k) ∧
    (∀ e, parse s = .error e ↔ (∀ k, ¬ Spells s.toList k) ∧ e = .unsupportedKey s) ∧
    ∀ before c after, s.toList = before ++ c :: after → Text.allBlank before = true →
      Text.allBlank after = true → 1 < (Text.upperChar c).length →
        parse s = .error (.unsupportedKey s) := by
  have hspells : ∀ k, parse s = .ok k ↔ Spells s.toList k := by
    intro k
    rw [parse_eq_ok_iff, spells_iff]
  refine ⟨parse_eq_uppercase s, hspells, ?_, ?_⟩
  · intro e
    simp only [parse_eq_error_iff, Ne, hspells]
  · intro before c after hs hbefore hafter hlong
    refine parse_eq_error_iff.mpr ⟨fun k hk => ?_, rfl⟩
    -- the letter that is left of the text is no blank, so it is the character with the longer form
    obtain ⟨d, htrim, hd⟩ := parse_eq_ok_iff.mp hk
    have hmem : d ∈ s.toList := Text.mem_of_mem_trim (htrim ▸ List.mem_singleton_self d)
    rw [hs, List.mem_append, List.mem_cons] at hmem
    rcases hmem with hmem | rfl | hmem
    · exact absurd (List.all_eq_true.mp hbefore d hmem) (by simp [hd.isBlank])
    · rw [spelt_iff_upperChar.mp hd] at hlong
      exact absurd hlong (by simp)
    · exact absurd (List.all_eq_true.mp hafter d hmem) (by simp [hd.isBlank])

/-- A ligature whose uppercase form starts with the letter of a key, and a letter behind a no-break
space. -/
theorem parse_spellings_ligature :
    1 < (Text.upperChar '\uFB00').length ∧
      parse " \uFB00\u00A0" = .error (.unsupportedKey " \uFB00\u00A0") ∧
      parse "\u00A0g " = .ok .G := by
  have hlong : 1 < (Text.upperChar '\uFB00').length := by decide
  refine ⟨hlong, ?_, ?_⟩
  · exact (parse_spellings " \uFB00\u00A0").2.2.2 [' '] '\uFB00' ['\u00A0'] rfl (by decide)
      (by decide) hlong
  · exact ((parse_spellings "\u00A0g ").2.1 .G).mpr
      ⟨['\u00A0'], 'g', [' '], rfl, by decide, by decide, .inr rfl⟩

end Key

end ChordSheet
