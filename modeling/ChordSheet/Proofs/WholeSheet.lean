import ChordSheet.Proofs.Entries
import ChordSheet.Proofs.LineEffect

/-!
# A sheet is transposed as a whole

A line of chords is *foreign* to a key if one of its symbols has a side that is none of the seven
chords of the key. Chords on markers and on text do not count. The first line that is foreign to
the source key stops a sheet, whatever the target; a sheet without such a line is transposed line
by line, and each line becomes what its kind says.

* `Sheet.transposeLine_eq_error_iff` : only a foreign line is stopped.
* `Sheet.transposeLines_eq_error_iff` : the first foreign line stops the lines of a sheet.
* `Entry.Reads.becomes` : what becomes of a line that is read in the source key.
* `Rendition.ofLines_effect` : the exact effect of transposing a sheet.
-/

set_option autoImplicit false

namespace ChordSheet

/-! ## Foreign lines -/

namespace Line

/-- A line of chords with a maximal word that is a symbol and has a side that is none of the
chords of a key. -/
structure Foreign (k : Key) (l : String) : Prop where
  chords : kind l = .chords
  side : ∃ before word after, WordAt l.toList before word after ∧ isSymbol word = true ∧
    ∃ side ∈ Text.pieces '/' word, String.ofList side ∉ k.chordNames

/-- What becomes of a line of each kind. -/
structure Becomes (t : Transposition) (l m : String) : Prop where
  keyMarker : kind l = .keyMarker → m = t.target.name ++ " key"
  chords : kind l = .chords → ∃ n, t.line l = .ok ⟨m, n⟩
  text : kind l = .text → m = l

theorem FirstForeign.foreign {k : Key} {l : String} {before word after side : List Char}
    (hk : kind l = .chords) (h : FirstForeign k l.toList before word after side) :
    Foreign k l := by
  obtain ⟨left, right, hword, hside, _⟩ := h.side
  exact ⟨hk, before, word, after, h.wordAt, h.symbol, side, by simp [hword], hside⟩

end Line

namespace Sheet

/-- The first line of a sheet that is foreign to a key, by its number counted from one, and the
leftmost foreign side of its leftmost symbol that has one. -/
def FirstForeign (k : Key) (lines : List String) (number : Nat) (side : List Char) : Prop :=
  ∃ before l after, lines = before ++ l :: after ∧ number = before.length + 1 ∧
    (∀ m ∈ before, ¬ Line.Foreign k m) ∧ Line.kind l = .chords ∧
    ∃ left word right, Line.FirstForeign k l.toList left word right side

variable {t : Transposition}

theorem transposeLine_eq_error_iff {l : String} {e : TranspositionError} :
    transposeLine t l = .error e ↔
      Line.kind l = .chords ∧ ∃ left word right side,
        Line.FirstForeign t.source l.toList left word right side ∧
          e = .invalidChord (String.ofList side) := by
  rw [← Transposition.line_eq_error_iff_firstForeign, transposeLine]
  cases Line.kind l <;> simp

/-- A foreign line is stopped by one of its sides. -/
theorem exists_firstForeign {k : Key} {l : String} (h : Line.Foreign k l) :
    ∃ left word right side, Line.FirstForeign k l.toList left word right side := by
  obtain ⟨_, before, word, after, hat, hsym, side, hmem, hside⟩ := h
  obtain ⟨e, he⟩ := Transposition.exists_error_of_wordAt (t := ⟨k, k⟩) hat hsym hmem hside
  obtain ⟨left, word', right, side', hfirst, _⟩ :=
    Transposition.line_eq_error_iff_firstForeign.mp he
  exact ⟨left, word', right, side', hfirst⟩

theorem exists_transposeLine_of_not_foreign {l : String} (h : ¬ Line.Foreign t.source l) :
    ∃ m, transposeLine t l = .ok m := by
  cases hl : transposeLine t l with
  | ok m => exact ⟨m, rfl⟩
  | error e =>
    obtain ⟨hk, left, word, right, side, hfirst, _⟩ := transposeLine_eq_error_iff.mp hl
    exact absurd (hfirst.foreign hk) h

theorem transposeLine_eq_error_of_firstForeign {l : String} {left word right side : List Char}
    (hk : Line.kind l = .chords)
    (h : Line.FirstForeign t.source l.toList left word right side) :
    transposeLine t l = .error (.invalidChord (String.ofList side)) :=
  transposeLine_eq_error_iff.mpr ⟨hk, left, word, right, side, h, rfl⟩

/-- A line in front of which nothing is foreign is stopped if and only if it is foreign or
something behind it is. -/
theorem transposeLines_cons_eq_error_iff {number : Nat} {l : String} {ls : List String}
    {e : TranspositionError} :
    transposeLines t number (l :: ls) = .error e ↔
      (∃ e', transposeLine t l = .error e' ∧ e = e'.atLine number) ∨
        ((∃ m, transposeLine t l = .ok m) ∧ transposeLines t (number + 1) ls = .error e) := by
  rw [transposeLines]
  cases hl : transposeLine t l with
  | error e' => simp [bind, Except.bind, Except.mapError, eq_comm]
  | ok m =>
    cases hls : transposeLines t (number + 1) ls with
    | error e' => simp [bind, Except.bind, Except.mapError]
    | ok p => simp [bind, Except.bind, Except.mapError, pure, Except.pure]

/-- **The first foreign line stops the lines of a sheet**, whatever the target. -/
theorem transposeLines_eq_error_iff {number : Nat} {lines : List String}
    {e : TranspositionError} :
    transposeLines t number lines = .error e ↔
      ∃ before l after, lines = before ++ l :: after ∧
        (∀ m ∈ before, ¬ Line.Foreign t.source m) ∧ Line.kind l = .chords ∧
        ∃ left word right side, Line.FirstForeign t.source l.toList left word right side ∧
          e = .invalidChordAt (number + before.length) (String.ofList side) := by
  induction lines generalizing number with
  | nil => simp [transposeLines]
  | cons l ls ih =>
    rw [transposeLines_cons_eq_error_iff]
    constructor
    · rintro (⟨e', he', rfl⟩ | ⟨⟨m, hm⟩, hls⟩)
      · obtain ⟨hk, left, word, right, side, hfirst, rfl⟩ := transposeLine_eq_error_iff.mp he'
        exact ⟨[], l, ls, rfl, by simp, hk, left, word, right, side, hfirst, rfl⟩
      · obtain ⟨before, l', after, rfl, hbefore, hk, left, word, right, side, hfirst, rfl⟩ :=
          ih.mp hls
        refine ⟨l :: before, l', after, rfl, ?_, hk, left, word, right, side, hfirst, ?_⟩
        · intro m' hm'
          rcases List.mem_cons.mp hm' with rfl | hm'
          · intro hforeign
            obtain ⟨_, _, _, _, h⟩ := exists_firstForeign hforeign
            rw [transposeLine_eq_error_of_firstForeign hforeign.chords h] at hm
            cases hm
          · exact hbefore m' hm'
        · rw [List.length_cons, Nat.add_assoc, Nat.add_comm 1]
    · rintro ⟨before, l', after, hlines, hbefore, hk, left, word, right, side, hfirst, rfl⟩
      cases before with
      | nil =>
        obtain ⟨rfl, rfl⟩ := List.cons.inj hlines
        exact .inl ⟨_, transposeLine_eq_error_of_firstForeign hk hfirst, rfl⟩
      | cons b bs =>
        obtain ⟨rfl, rfl⟩ := List.cons.inj hlines
        refine .inr ⟨exists_transposeLine_of_not_foreign (hbefore l List.mem_cons_self), ?_⟩
        refine ih.mpr ⟨bs, l', after, rfl, fun m hm => hbefore m (List.mem_cons_of_mem _ hm), hk,
          left, word, right, side, hfirst, ?_⟩
        rw [List.length_cons, Nat.add_assoc, Nat.add_comm 1]

end Sheet

/-! ## What becomes of the lines -/

namespace Entry

variable {t : Transposition} {l : String} {e : Entry}

/-- A line that is read in the source key becomes what its kind says. -/
theorem Reads.becomes (h : Reads t.source l e) : Line.Becomes t l (e.write t.target) := by
  refine ⟨?_, ?_, ?_⟩
  · intro hk
    rw [h.eq_marker hk]
    rfl
  · intro hk
    obtain ⟨fs, rfl, hfs⟩ := h.exists_chords hk
    exact ⟨_, Transposition.line_eq_ok_iff.mpr ⟨fs, hfs, rfl⟩⟩
  · intro hk
    rw [h.eq_text hk]
    rfl

end Entry

/-! ## The effect on a sheet -/

namespace Rendition

open Entry

theorem ofLines_eq_error_keyNotDetected {lines : List String} (target : Key)
    (h : sourceKey? lines = none) : ofLines lines target = .error .keyNotDetected := by
  rw [ofLines, Sheet.ofLines_eq_error_iff.mpr ⟨h, rfl⟩]
  rfl

/-- A sheet with a source key fails exactly as its lines do. -/
theorem ofLines_eq_error_iff {lines : List String} {k target : Key} {e : TranspositionError}
    (hk : sourceKey? lines = some k) :
    ofLines lines target = .error e ↔
      ∃ number side, Sheet.FirstForeign k lines number side ∧
        e = .invalidChordAt number (String.ofList side) := by
  have hs : Sheet.ofLines lines = .ok ⟨lines, k, hk⟩ := Sheet.ofLines_eq_ok_iff.mpr rfl
  have hlines : ofLines lines target = .error e ↔
      Sheet.transposeLines ⟨k, target⟩ 1 lines = .error e := by
    rw [ofLines, hs]
    show (Sheet.transposeLines ⟨k, target⟩ 1 lines >>= _) = _ ↔ _
    cases Sheet.transposeLines ⟨k, target⟩ 1 lines <;> simp [bind, Except.bind, pure, Except.pure]
  rw [hlines, Sheet.transposeLines_eq_error_iff]
  constructor
  · rintro ⟨before, l, after, heq, hbefore, hkind, left, word, right, side, hfirst, rfl⟩
    exact ⟨1 + before.length, side, ⟨before, l, after, heq, Nat.add_comm _ _, hbefore, hkind,
      left, word, right, hfirst⟩, rfl⟩
  · rintro ⟨_, side, ⟨before, l, after, heq, rfl, hbefore, hkind, left, word, right, hfirst⟩, rfl⟩
    exact ⟨before, l, after, heq, hbefore, hkind, left, word, right, side, hfirst,
      by rw [Nat.add_comm]⟩

/-- Of some lines with a foreign one among them, one comes first. -/
theorem exists_firstForeign_of_mem {k : Key} {lines : List String}
    (h : ∃ l ∈ lines, Line.Foreign k l) :
    ∃ number side, Sheet.FirstForeign k lines number side := by
  classical
  obtain ⟨l, hfind⟩ : ∃ l, lines.find? (fun l => Line.Foreign k l) = some l := by
    rw [← Option.isSome_iff_exists, List.find?_isSome]
    simpa using h
  obtain ⟨hl, before, after, heq, hbefore⟩ := List.find?_eq_some_iff_append.mp hfind
  have hforeign : Line.Foreign k l := by simpa using hl
  obtain ⟨left, word, right, side, hfirst⟩ := Sheet.exists_firstForeign hforeign
  refine ⟨before.length + 1, side, before, l, after, heq, rfl, ?_, hforeign.chords, left, word,
    right, hfirst⟩
  intro m hm
  simpa using hbefore m hm

theorem mem_foreign_of_firstForeign {k : Key} {lines : List String} {number : Nat}
    {side : List Char} (h : Sheet.FirstForeign k lines number side) :
    ∃ l ∈ lines, Line.Foreign k l := by
  obtain ⟨before, l, after, rfl, _, _, hkind, left, word, right, hfirst⟩ := h
  exact ⟨l, by simp, hfirst.foreign hkind⟩

theorem exists_error_iff {lines : List String} {k target : Key}
    (hk : sourceKey? lines = some k) :
    (∃ e, ofLines lines target = .error e) ↔ ∃ l ∈ lines, Line.Foreign k l := by
  constructor
  · rintro ⟨e, he⟩
    obtain ⟨_, _, hfirst, _⟩ := (ofLines_eq_error_iff hk).mp he
    exact mem_foreign_of_firstForeign hfirst
  · intro hmem
    obtain ⟨number, side, hfirst⟩ := exists_firstForeign_of_mem hmem
    exact ⟨_, (ofLines_eq_error_iff hk).mpr ⟨number, side, hfirst, rfl⟩⟩

/-- Every line of a sheet that is transposed becomes what its kind says. -/
theorem forall₂_becomes {lines : List String} {target : Key} {r : Rendition}
    (h : ofLines lines target = .ok r) :
    List.Forall₂ (Line.Becomes ⟨r.source, target⟩) lines r.lines := by
  obtain ⟨es, hes, hlines, _⟩ := ofLines_eq_ok_iff.mp h
  rw [hlines, List.forall₂_map_right_iff]
  exact hes.reads.imp fun l e he => Reads.becomes (t := ⟨r.source, target⟩) he

/-- A sheet without foreign lines is transposed, line by line. -/
theorem exists_ok_of_not_foreign {lines : List String} {k target : Key}
    (hk : sourceKey? lines = some k) (hnone : ∀ l ∈ lines, ¬ Line.Foreign k l) :
    ∃ r, ofLines lines target = .ok r ∧ r.source = k ∧
      List.Forall₂ (Line.Becomes ⟨k, target⟩) lines r.lines ∧
      (target = k →
        List.Forall₂ (fun l m => Line.kind l ≠ .keyMarker → m = l) lines r.lines) := by
  cases hr : ofLines lines target with
  | error e =>
    obtain ⟨l, hl, hforeign⟩ := (exists_error_iff hk).mp ⟨e, hr⟩
    exact absurd hforeign (hnone l hl)
  | ok r =>
    obtain ⟨es, hes, hlines, _⟩ := ofLines_eq_ok_iff.mp hr
    have hsource : r.source = k := Option.some.inj (hes.source.symm.trans hk)
    have hreads := hsource ▸ hes.reads
    refine ⟨r, rfl, hsource, hsource ▸ forall₂_becomes hr, ?_⟩
    rintro rfl
    rw [hlines, List.forall₂_map_right_iff]
    exact hreads.imp fun l e he hm => he.write_self hm

/-- **A sheet is transposed as a whole or fails with the earliest fault.** Lines of which none
names a key have no key. Otherwise a line that is foreign to the source key, and nothing else,
stops the sheet; the error tells the number of the first such line and its first foreign side.
Every other sheet gives one line for each of its lines, which becomes what its kind says, and in
its own key stays as it is but for its markers. The target has no part in what stops a sheet. -/
theorem ofLines_effect (lines : List String) (target : Key) :
    (ofLines lines target = .error .keyNotDetected ↔
      ∀ l ∈ lines, Line.detectKey? l.toList = none) ∧
    (∀ k, sourceKey? lines = some k →
      ((∃ e, ofLines lines target = .error e) ↔ ∃ l ∈ lines, Line.Foreign k l) ∧
      (∀ e, ofLines lines target = .error e ↔
        ∃ number side, Sheet.FirstForeign k lines number side ∧
          e = .invalidChordAt number (String.ofList side)) ∧
      ((∀ l ∈ lines, ¬ Line.Foreign k l) →
        ∃ r, ofLines lines target = .ok r ∧ r.source = k ∧
          List.Forall₂ (Line.Becomes ⟨k, target⟩) lines r.lines ∧
          (target = k →
            List.Forall₂ (fun l m => Line.kind l ≠ .keyMarker → m = l) lines r.lines))) ∧
    (∀ other e, ofLines lines target = .error e ↔ ofLines lines other = .error e) := by
  refine ⟨?_, ?_, ?_⟩
  · rw [← List.findSome?_eq_none_iff]
    constructor
    · intro h
      cases hk : sourceKey? lines with
      | none => exact hk
      | some k =>
        obtain ⟨_, _, _, he⟩ := (ofLines_eq_error_iff hk).mp h
        cases he
    · exact ofLines_eq_error_keyNotDetected target
  · intro k hk
    exact ⟨exists_error_iff hk, fun e => ofLines_eq_error_iff hk, exists_ok_of_not_foreign hk⟩
  · intro other e
    cases hk : sourceKey? lines with
    | none =>
      rw [ofLines_eq_error_keyNotDetected target hk, ofLines_eq_error_keyNotDetected other hk]
    | some k => rw [ofLines_eq_error_iff hk, ofLines_eq_error_iff hk]

theorem ofLines_effect_two_faults :
    ofLines ["key: C G7/A", "G7", "C#m/A", "F#"] .D = .error (.invalidChordAt 3 "C#m") ∧
      Sheet.FirstForeign .C ["key: C G7/A", "G7", "C#m/A", "F#"] 3 "C#m".toList := by
  have herror : ofLines ["key: C G7/A", "G7", "C#m/A", "F#"] .D =
      .error (.invalidChordAt 3 "C#m") := by decide +kernel
  have hsource : sourceKey? ["key: C G7/A", "G7", "C#m/A", "F#"] = some .C := by decide +kernel
  obtain ⟨number, side, hfirst, he⟩ :=
    (((ofLines_effect _ .D).2.1 .C hsource).2.1 _).mp herror
  obtain ⟨rfl, hside⟩ := TranspositionError.invalidChordAt.inj he
  refine ⟨herror, ?_⟩
  rw [hside, String.toList_ofList]
  exact hfirst

end Rendition

end ChordSheet
