import Mathlib.Data.ZMod.Basic
import Mathlib.Tactic.Abel
import ChordSheet.Proofs.Entries

/-!
# Transposition as a musical shift

A pitch has a *pitch class*, its distance in semitones above C modulo the octave. Read that way,
the table of keys is seven times the major scale, each time from another tonic, and to transpose
is to shift: every side of every symbol keeps its quality and goes up by the distance from the
source to the target. So the interval between any two chords stays what it was.

* `Key.pitchClass_root` : every row of the table is the major scale above its tonic.
* `Key.triad?_render` : what a chord of a key sounds.
* `Line.Reads.symbols_eq` : the symbols of a line that is read in a key.
* `Rendition.uniform_shift` : lines and sheets are shifted as a whole.
-/

set_option autoImplicit false

namespace ChordSheet

/-! ## Pitch classes -/

/-- The semitones of a natural note above C. -/
def Note.semitones : Note → ZMod 12
  | C => 0
  | D => 2
  | E => 4
  | F => 5
  | G => 7
  | A => 9
  | B => 11

/-- What an accidental adds to a note. -/
def Accidental.semitones : Accidental → ZMod 12
  | sharp => 1
  | flat => -1

/-- The semitones of a pitch above C, octaves left out. -/
def Pitch.pitchClass (p : Pitch) : ZMod 12 :=
  match p.accidental with
  | none => p.note.semitones
  | some a => p.note.semitones + a.semitones

/-- The semitones of a degree of the major scale above the tonic. -/
def Degree.semitones : Degree → ZMod 12
  | I => 0
  | II => 2
  | III => 4
  | IV => 5
  | V => 7
  | VI => 9
  | VII => 11

/-- The distance from the source key up to the target key. -/
def Transposition.shift (t : Transposition) : ZMod 12 := t.target.semitones - t.source.semitones

/-- **Every row of the table is the major scale above its tonic.** -/
theorem Key.pitchClass_root (k : Key) (d : Degree) :
    (root k d).pitchClass = k.semitones + d.semitones := by
  cases k <;> cases d <;> decide

/-! ## What a side sounds -/

/-- The pitch class and the quality of a side that is written as a triad: a note, at most one
accidental, and nothing, `m` or `dim` after it. -/
def triad? (side : List Char) : Option (ZMod 12 × Quality) :=
  match Chord.parse? side with
  | some ⟨root, quality, none⟩ => if quality = .maj then none else some (root.pitchClass, quality)
  | _ => none

/-- The interval from the root of one side up to that of another. -/
def interval? (a b : List Char) : Option (ZMod 12) := do
  let (p, _) ← triad? a
  let (q, _) ← triad? b
  pure (q - p)

/-- A side that sounds like another one a number of semitones higher, with the same quality. -/
def Shifted (n : ZMod 12) (a b : List Char) : Prop :=
  ∃ p quality, triad? a = some (p, quality) ∧ triad? b = some (p + n, quality)

/-- Two sides that are shifted alike keep the interval between them. -/
theorem Shifted.interval?_eq {n : ZMod 12} {a b a' b' : List Char} (ha : Shifted n a a')
    (hb : Shifted n b b') : (interval? a b).isSome = true ∧ interval? a' b' = interval? a b := by
  obtain ⟨p, _, hp, hp'⟩ := ha
  obtain ⟨q, _, hq, hq'⟩ := hb
  have hshift : q + n - (p + n) = q - p := by abel
  simp [interval?, hp, hp', hq, hq', hshift]

namespace Key

/-- A chord of a key sounds its degree above the tonic, with the quality of the degree. -/
theorem triad?_render (k : Key) (d : Degree) :
    triad? (chord k d).render = some (k.semitones + d.semitones, d.quality) := by
  have hquality : d.quality ≠ .maj := by cases d <;> decide
  simp [triad?, Chord.parse?_render, chord, hquality, pitchClass_root]

theorem shifted_render (t : Transposition) (d : Degree) :
    Shifted t.shift (chord t.source d).render (chord t.target d).render := by
  refine ⟨t.source.semitones + d.semitones, d.quality, triad?_render _ _, ?_⟩
  have hshift : t.source.semitones + d.semitones + t.shift =
      t.target.semitones + d.semitones := by
    rw [Transposition.shift]
    abel
  rw [triad?_render, hshift]

end Key

/-! ## The symbols of a line -/

/-- The degrees of a figure that is a symbol. -/
def Figure.degrees? : Figure → Option (List Degree)
  | plain _ _ => none
  | degrees ds _ _ => some ds

namespace Line

/-- The symbols of a line from left to right, each as the list of its sides. -/
def symbols (s : List Char) : List (List (List Char)) :=
  ((runs s).filter fun r => r.kind == .word && isSymbol r.text).map fun r =>
    Text.pieces '/' r.text

/-- The side with the given number of the symbol with the given number. -/
def side? (s : List Char) (i j : Nat) : Option (List Char) := do (← (symbols s)[i]?)[j]?

/-- Two sides at the same place of two lines. -/
def SidesAt (s t a b : List Char) : Prop := ∃ i j, side? s i j = some a ∧ side? t i j = some b

/-- The symbols of a line that is read in a key are the chords of its degrees. -/
theorem Reads.symbols_eq {k : Key} {s : List Char} {fs : List Figure} (h : Reads k s fs) :
    symbols s = (fs.filterMap Figure.degrees?).map fun ds =>
      ds.map fun d => (Key.chord k d).render := by
  have hsym : ∀ r ∈ runs s, (r.kind == .word && isSymbol r.text) = r.isSymbol :=
    fun r hr => ((partition_runs s).solid r hr).isSymbol_eq.symm
  rw [symbols, List.filter_congr hsym, h]
  clear hsym h
  induction fs with
  | nil => rfl
  | cons f fs ih =>
    rw [List.map_cons, List.filter_cons, Figure.isSymbol_run]
    cases f with
    | plain r hr => exact ih
    | degrees ds hne hle =>
      have hsides := k.pieces_spell hne
      simpa [Figure.isSymbol, Figure.degrees?, Figure.run, hsides] using ih

/-- Figures that are written in another key are shifted side by side. -/
theorem Reads.forall₂_shifted {t : Transposition} {s : List Char} {fs : List Figure}
    (h : Reads t.source s fs) :
    List.Forall₂ (List.Forall₂ (Shifted t.shift)) (symbols s)
      (symbols (Figure.write t.target fs)) := by
  rw [h.symbols_eq, (h.write t.target).symbols_eq, List.forall₂_map_left_iff,
    List.forall₂_map_right_iff, List.forall₂_same]
  intro ds _
  rw [List.forall₂_map_left_iff, List.forall₂_map_right_iff, List.forall₂_same]
  exact fun d _ => Key.shifted_render t d

theorem SidesAt.shifted {n : ZMod 12} {s t a b : List Char}
    (h : List.Forall₂ (List.Forall₂ (Shifted n)) (symbols s) (symbols t)) (hab : SidesAt s t a b) :
    Shifted n a b := by
  obtain ⟨i, j, ha, hb⟩ := hab
  obtain ⟨as, has, ha⟩ := Option.bind_eq_some_iff.mp ha
  obtain ⟨bs, hbs, hb⟩ := Option.bind_eq_some_iff.mp hb
  obtain ⟨bs', hbs', hsides⟩ := exists_getElem?_of_forall₂ h has
  obtain rfl : bs' = bs := Option.some.inj (hbs'.symm.trans hbs)
  obtain ⟨b', hb', hshifted⟩ := exists_getElem?_of_forall₂ hsides ha
  obtain rfl : b' = b := Option.some.inj (hb'.symm.trans hb)
  exact hshifted

end Line

theorem Transposition.forall₂_shifted {t : Transposition} {l : String} {m : MovedLine}
    (h : t.line l = .ok m) :
    List.Forall₂ (List.Forall₂ (Shifted t.shift)) (Line.symbols l.toList)
      (Line.symbols m.text.toList) := by
  obtain ⟨fs, hfs, rfl⟩ := Transposition.line_eq_ok_iff.mp h
  rw [String.toList_ofList]
  exact hfs.forall₂_shifted

/-! ## Sheets -/

/-- Two sides at the same place of a line of chords and of what became of it. -/
def Sheet.SidesAt (lines moved : List String) (a b : List Char) : Prop :=
  ∃ (i : Nat) (l m : String), lines[i]? = some l ∧ moved[i]? = some m ∧ Line.kind l = .chords ∧
    Line.SidesAt l.toList m.toList a b

theorem Entry.Reading.forall₂_shifted {k target : Key} {lines : List String} {es : List Entry}
    (h : Entry.Reading k lines es) {i : Nat} {l m : String} (hl : lines[i]? = some l)
    (hm : (es.map (Entry.write target))[i]? = some m) (hk : Line.kind l = .chords) :
    List.Forall₂ (List.Forall₂ (Shifted (Transposition.shift ⟨k, target⟩))) (Line.symbols l.toList)
      (Line.symbols m.toList) := by
  obtain ⟨e, he, hr⟩ := h.exists_entry hl
  obtain ⟨fs, rfl, hfs⟩ := hr.exists_chords hk
  rw [List.getElem?_map, he, Option.map_some, Option.some.injEq] at hm
  rw [← hm, Entry.write, String.toList_ofList]
  exact Line.Reads.forall₂_shifted (t := ⟨k, target⟩) hfs

/-- **Transposition is a uniform musical shift.** Where a line moves, its symbols and those of the
moved line correspond side by side; each side keeps its quality and goes up by the distance from
the source to the target, so that any two sides keep the interval between them. The same holds
over all lines of chords of a sheet that is transposed, from its source key. -/
theorem Rendition.uniform_shift :
    (∀ (t : Transposition) (l : String) (m : MovedLine), t.line l = .ok m →
      List.Forall₂ (List.Forall₂ (Shifted (t.target.semitones - t.source.semitones)))
        (Line.symbols l.toList) (Line.symbols m.text.toList) ∧
      ∀ a a' b b', Line.SidesAt l.toList m.text.toList a a' →
        Line.SidesAt l.toList m.text.toList b b' →
          (interval? a b).isSome = true ∧ interval? a' b' = interval? a b) ∧
    (∀ (lines : List String) (target : Key) (r : Rendition),
      Rendition.ofLines lines target = .ok r → sourceKey? lines = some r.source ∧
        (∀ (i : Nat) (l m : String), lines[i]? = some l → r.lines[i]? = some m →
          Line.kind l = .chords →
            List.Forall₂ (List.Forall₂ (Shifted (target.semitones - r.source.semitones)))
              (Line.symbols l.toList) (Line.symbols m.toList)) ∧
        ∀ a a' b b', Sheet.SidesAt lines r.lines a a' → Sheet.SidesAt lines r.lines b b' →
          (interval? a b).isSome = true ∧ interval? a' b' = interval? a b) := by
  refine ⟨?_, ?_⟩
  · intro t l m h
    have hshifted := Transposition.forall₂_shifted h
    exact ⟨hshifted, fun _ _ _ _ ha hb => (ha.shifted hshifted).interval?_eq (hb.shifted hshifted)⟩
  · intro lines target r h
    obtain ⟨es, hes, hlines, _⟩ := Rendition.ofLines_eq_ok_iff.mp h
    have hshifted : ∀ (i : Nat) (l m : String), lines[i]? = some l → r.lines[i]? = some m →
        Line.kind l = .chords →
          List.Forall₂ (List.Forall₂ (Shifted (target.semitones - r.source.semitones)))
            (Line.symbols l.toList) (Line.symbols m.toList) := by
      intro i l m hl hm hk
      rw [hlines] at hm
      exact hes.forall₂_shifted hl hm hk
    refine ⟨hes.source, hshifted, ?_⟩
    rintro a a' b b' ⟨i, l, m, hl, hm, hk, ha⟩ ⟨j, l', m', hl', hm', hk', hb⟩
    exact (ha.shifted (hshifted i l m hl hm hk)).interval?_eq
      (hb.shifted (hshifted j l' m' hl' hm' hk'))

theorem Rendition.uniform_shift_flat_to_sharp :
    Rendition.ofLines ["key: F", "Bb/C"] .B = .ok ⟨.F, ["B key", "E/F#"], ⟨2, 1, 1, 1⟩⟩ ∧
      (interval? "Bb".toList "C".toList).isSome = true ∧
      interval? "E".toList "F#".toList = interval? "Bb".toList "C".toList := by
  have hmoved : Rendition.ofLines ["key: F", "Bb/C"] .B =
      .ok ⟨.F, ["B key", "E/F#"], ⟨2, 1, 1, 1⟩⟩ := by decide +kernel
  have hleft : Sheet.SidesAt ["key: F", "Bb/C"] ["B key", "E/F#"] "Bb".toList "E".toList :=
    ⟨1, _, _, rfl, rfl, by decide +kernel, 0, 0, by decide +kernel, by decide +kernel⟩
  have hright : Sheet.SidesAt ["key: F", "Bb/C"] ["B key", "E/F#"] "C".toList "F#".toList :=
    ⟨1, _, _, rfl, rfl, by decide +kernel, 0, 1, by decide +kernel, by decide +kernel⟩
  exact ⟨hmoved, (Rendition.uniform_shift.2 _ _ _ hmoved).2.2 _ _ _ _ hleft hright⟩

end ChordSheet
