import ChordSheet.Proofs.Entries
import ChordSheet.Proofs.LineEffect
import ChordSheet.Proofs.SourceKey

/-!
# The report on a sheet

A report is gathered symbol by symbol and line by line while a sheet is transposed. What it counts
can be read off the sheet alone: its lines, its markers, its lines of chords that are no markers,
and the words on those that are chord symbols. Hence the target makes no difference.

* `Line.words_eq` : the words of a line, cut at its blanks, are the words among its runs.
* `Entry.report_eq_tally` : entries give the report that their lines call for.
* `Sheet.transpose_tally` : the report on a sheet that was transposed.
-/

set_option autoImplicit false

namespace ChordSheet

/-! ## Words between blanks -/

namespace Text

/-- The words of a text: what stands between blanks and is not empty. -/
def words (s : List Char) : List (List Char) := (s.splitOnP isBlank).filter (!·.isEmpty)

theorem words_cons_of_isBlank {c : Char} (s : List Char) (h : isBlank c = true) :
    words (c :: s) = words s := by
  simp [words, List.splitOnP_cons_eq_if_modifyHead, h]

/-- A blank parts the words of a text. -/
theorem words_append_cons {c : Char} (h : isBlank c = true) (s t : List Char) :
    words (s ++ c :: t) = words s ++ words t := by
  rw [words, List.splitOnP_append_cons s t h, List.filter_append]
  rfl

theorem words_append_of_blank {a : List Char} (s : List Char) (h : ∀ c ∈ a, isBlank c = true) :
    words (a ++ s) = words s := by
  induction a with
  | nil => rfl
  | cons c cs ih =>
    rw [List.cons_append, words_cons_of_isBlank _ (h c List.mem_cons_self)]
    exact ih fun d hd => h d (List.mem_cons_of_mem _ hd)

/-- A text starts with a whole word if the word ends where a blank or the text does. -/
theorem words_append_of_word {a s : List Char} (hne : a ≠ []) (ha : ∀ c ∈ a, isBlank c = false)
    (hs : ∀ c ∈ s.head?, isBlank c = true) : words (a ++ s) = a :: words s := by
  cases s with
  | nil => simp [words, List.splitOnP_eq_singleton ha, hne]
  | cons c cs =>
    have hc : isBlank c = true := hs c rfl
    have hsplit := List.splitOnP_append_cons_of_forall_mem ha c hc cs
    rw [words_cons_of_isBlank cs hc, words, hsplit, List.filter_cons_of_pos (by simpa using hne)]
    rfl

end Text

namespace Line

theorem words_flatten {rs : List Run} (h : Run.Partition rs) :
    Text.words (Run.flatten rs) = (rs.filter (·.kind == .word)).map Run.text := by
  induction rs with
  | nil => rfl
  | cons r rs ih =>
    obtain ⟨hr, -, hrs⟩ := Run.partition_cons_iff.mp h
    rw [Run.flatten_cons]
    cases hk : r.kind with
    | blank =>
      have hblank := hr.isBlank_eq_true hk
      rw [Text.words_append_of_blank _ hblank, List.filter_cons_of_neg (by simp [hk]), ih hrs]
    | word =>
      have hword := hr.isBlank_eq_false hk
      have hnext := h.isBlank_head?_flatten hk
      rw [Text.words_append_of_word hr.ne_nil hword hnext, List.filter_cons_of_pos (by simp [hk]),
        List.map_cons, ih hrs]

/-- **The words of a line, cut at its blanks, are the words among its runs.** -/
theorem words_eq (s : List Char) :
    Text.words s = ((runs s).filter (·.kind == .word)).map Run.text := by
  rw [← words_flatten (partition_runs s), text_runs]

/-- A reading has as many symbols as the line has words that are symbols. -/
theorem Reads.countP_words {k : Key} {s : List Char} {fs : List Figure} (h : Reads k s fs) :
    fs.countP Figure.isSymbol = (Text.words s).countP isSymbol := by
  rw [h.countP_isSymbol, words_eq, List.countP_map, List.countP_filter]
  exact List.countP_congr fun r _ => by simp [and_comm]

/-! ## What a report counts -/

/-- A line whose lowercase form holds the word *key*. -/
def IsMarker (l : String) : Prop := ['k', 'e', 'y'] <:+: Text.lowercase l.toList

instance : DecidablePred IsMarker := fun l =>
  inferInstanceAs (Decidable (['k', 'e', 'y'] <:+: Text.lowercase l.toList))

/-- Whether a line looks like chords and is no marker. -/
def isChordLine (l : String) : Bool := !decide (IsMarker l) && looksLikeChords l.toList

theorem isMarker_iff {l : String} : IsMarker l ↔ kind l = .keyMarker := by
  rw [kind, kindOf_eq_keyMarker_iff, mentionsKey_iff_lowercase]
  rfl

theorem isChordLine_iff {l : String} : isChordLine l = true ↔ kind l = .chords := by
  have hmarker : IsMarker l ↔ mentionsKey l.toList = true := mentionsKey_iff_lowercase.symm
  rw [isChordLine, kind, kindOf]
  simp only [hmarker]
  cases mentionsKey l.toList <;> cases looksLikeChords l.toList <;> simp

end Line

/-- The report that some lines call for: how many they are, how many of them are markers, how many
of the others look like chords, and how many words on these are chord symbols. -/
def Report.tally (lines : List String) : Report where
  lines := lines.length
  keyMarkers := lines.countP fun l => decide (Line.IsMarker l)
  chordLines := lines.countP Line.isChordLine
  chords := ((lines.filter Line.isChordLine).map fun l => (Text.words l.toList).countP isSymbol).sum

/-- One more line of a kind counts once as that, and its symbols only if it is a line of
chords. -/
theorem Report.tally_cons (l : String) (lines : List String) :
    tally (l :: lines) = (tally lines).count (Line.kind l)
      (if Line.kind l = .chords then (Text.words l.toList).countP isSymbol else 0) := by
  have hmarker := Line.isMarker_iff (l := l)
  have hchords := Line.isChordLine_iff (l := l)
  simp only [tally, count, List.length_cons, List.countP_cons, List.filter_cons,
    decide_eq_true_eq, hmarker, hchords, mk.injEq, true_and]
  split
  · rw [List.map_cons, List.sum_cons, Nat.add_comm]
  · rw [Nat.add_zero]

namespace Entry

variable {k : Key} {l : String} {e : Entry} {lines : List String} {es : List Entry}

theorem Reads.symbols_eq (h : Reads k l e) :
    e.symbols =
      if Line.kind l = .chords then (Text.words l.toList).countP isSymbol else 0 := by
  cases h with
  | marker hk => simp [symbols, hk]
  | text hk => simp [symbols, hk]
  | chords hk hfs => rw [if_pos hk, symbols, hfs.countP_words]

/-- **Entries give the report that their lines call for.** -/
theorem report_eq_tally (h : List.Forall₂ (Reads k) lines es) : report es = Report.tally lines := by
  induction h with
  | nil => rfl
  | @cons l e lines es he _ ih =>
    rw [Report.tally_cons, ← ih, ← he.symbols_eq, ← he.kind_eq]
    rfl

end Entry

/-- **The report counts what was done.** If a sheet can be transposed to a key, the report gives
the number of lines, before and after; the number of lines whose lowercase form holds the word
*key*; the number of other lines that look like chords; and over exactly these the sum of the
numbers of words that are chord symbols. For every other key the report is the same. -/
theorem Sheet.transpose_tally {s : Sheet} {target : Key} {moved : List String} {report : Report}
    (h : s.transpose target = .ok (moved, report)) :
    report.lines = s.lines.length ∧ report.lines = moved.length ∧
      report.keyMarkers = s.lines.countP (fun l => decide (Line.IsMarker l)) ∧
      report.chordLines = s.lines.countP Line.isChordLine ∧
      report.chords = ((s.lines.filter Line.isChordLine).map fun l =>
        (Text.words l.toList).countP isSymbol).sum ∧
      ∀ other, ∃ moved', s.transpose other = .ok (moved', report) := by
  obtain ⟨es, hes, heq⟩ := transposeLines_eq_ok_iff.mp h
  obtain ⟨rfl, rfl⟩ := Prod.mk.inj heq
  have htally := Entry.report_eq_tally hes
  have hlength : s.lines.length = es.length := hes.length_eq
  have hother : ∀ other, ∃ moved', s.transpose other = .ok (moved', Entry.report es) :=
    fun other => ⟨es.map (Entry.write other), transposeLines_eq_ok_iff.mpr ⟨es, hes, rfl⟩⟩
  refine ⟨?_, ?_, ?_, ?_, ?_, hother⟩
  all_goals rw [htally]
  · rfl
  · rw [List.length_map]
    exact hlength
  all_goals rfl

/-- A marker with a Kelvin sign, chords, a marker with a symbol on it, and a line of text that only
its chords could make one of chords. -/
theorem Sheet.transpose_tally_four_lines :
    ∃ s : Sheet, s.lines = ["\u212Aey: G", "G/D    Em    C    D", "monkey G/D", "G Em C D"] ∧
      s.transpose .C = .ok (["C key", "C/G    Am    F    G", "C key", "G Em C D"], ⟨4, 2, 1, 4⟩) ∧
      4 = s.lines.length ∧ 2 = s.lines.countP (fun l => decide (Line.IsMarker l)) ∧
      1 = s.lines.countP Line.isChordLine ∧
      4 = ((s.lines.filter Line.isChordLine).map fun l =>
        (Text.words l.toList).countP isSymbol).sum ∧
      ∀ other, ∃ moved, s.transpose other = .ok (moved, ⟨4, 2, 1, 4⟩) := by
  obtain ⟨s, hs⟩ : ∃ s : Sheet,
      s.lines = ["\u212Aey: G", "G/D    Em    C    D", "monkey G/D", "G Em C D"] ∧
      s.transpose .C = .ok (["C key", "C/G    Am    F    G", "C key", "G Em C D"], ⟨4, 2, 1, 4⟩) :=
    ⟨⟨_, .G, by decide +kernel⟩, rfl, by decide +kernel⟩
  obtain ⟨hlines, _, hmarkers, hchordLines, hchords, hother⟩ := transpose_tally hs.2
  exact ⟨s, hs.1, hs.2, hlines, hmarkers, hchordLines, hchords, hother⟩

end ChordSheet
