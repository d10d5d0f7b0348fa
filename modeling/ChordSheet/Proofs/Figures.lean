import Mathlib.Data.List.Forall2
import ChordSheet.Line.Moved
import ChordSheet.Proofs.Margins
import ChordSheet.Proofs.Partition
import ChordSheet.Proofs.Spelling

/-!
# Lines as figures

A *figure* is a run of a line that is read in a key: a chord symbol stands for the degrees that it
spells, and any other run stands for itself. A line whose symbols all belong to a key has a
reading in that key, and the reading can be written in every key. To transpose a line is to read
it in the source key and to write the figures in the target key; a line without a reading is
stopped by the leftmost foreign side of its leftmost symbol that has one.

* `Line.Reads.write` : figures are read back from the line that they were written as.
* `Transposition.line_eq_ok_iff` : a line moves exactly if it has a reading in the source key.
* `Transposition.line_eq_error_iff` : what stops a line that has none.
* `Transposition.line_comp` : moving a line from key to key is a groupoid action.
-/

set_option autoImplicit false

namespace ChordSheet

/-! ## Words of runs -/

namespace Run

theorem Solid.word_eq {r : Run} (h : r.Solid) (hk : r.kind = .word) : r.word = r.text :=
  (Text.trimmed_of_forall (h.isBlank_eq_false hk)).trim_eq

theorem Solid.isSymbol_eq {r : Run} (h : r.Solid) :
    r.isSymbol = (r.kind == .word && ChordSheet.isSymbol r.text) := by
  unfold isSymbol
  cases hk : r.kind with
  | blank => rfl
  | word => rw [h.word_eq hk]

theorem Solid.isSymbol_iff {r : Run} (h : r.Solid) :
    r.isSymbol = true ↔ r.kind = .word ∧ ChordSheet.isSymbol r.text = true := by
  rw [h.isSymbol_eq, Bool.and_eq_true, beq_iff_eq]

theorem solid_spell (k : Key) {ds : List Degree} (hne : ds ≠ []) :
    Solid ⟨.word, k.spell ds⟩ := by
  constructor
  · obtain ⟨n, rest, hspell⟩ := k.exists_letter_spell hne
    rw [hspell]
    exact List.cons_ne_nil _ _
  · intro c hc
    have hblank := k.forall_mem_spell ds (p := fun x => !Text.isBlank x) (by decide) c hc
    rw [RunKind.ofChar_eq_word_iff]
    simpa using hblank

end Run

/-! ## Figures -/

/-- A run as it is read in a key: kept as it is, or a symbol as the degrees that it spells. -/
inductive Figure where
  | plain (r : Run) (not_symbol : r.isSymbol = false)
  | degrees (ds : List Degree) (ne_nil : ds ≠ []) (length_le : ds.length ≤ 2)

namespace Figure

/-- The run that a figure stands for in a key. -/
def run (k : Key) : Figure → Run
  | plain r _ => r
  | degrees ds _ _ => ⟨.word, k.spell ds⟩

/-- Whether a figure is a symbol. -/
def isSymbol : Figure → Bool
  | plain _ _ => false
  | degrees _ _ _ => true

/-- The line that some figures stand for in a key. -/
def write (k : Key) (fs : List Figure) : List Char := Run.flatten (fs.map (run k))

theorem isSymbol_run (k : Key) (f : Figure) : (f.run k).isSymbol = f.isSymbol := by
  cases f with
  | plain r h => exact h
  | degrees ds hne hle =>
    have hsym : ChordSheet.isSymbol (k.spell ds) = true := (isSymbol_spell_iff k hne).mpr hle
    exact (Run.solid_spell k hne).isSymbol_iff.mpr ⟨rfl, hsym⟩

theorem kind_run (k l : Key) (f : Figure) : (f.run k).kind = (f.run l).kind := by
  cases f <;> rfl

theorem solid_run {k : Key} (l : Key) {f : Figure} (h : (f.run k).Solid) : (f.run l).Solid := by
  cases f with
  | plain r _ => exact h
  | degrees ds hne _ => exact Run.solid_spell l hne

theorem partition_map_run {k : Key} (l : Key) {fs : List Figure}
    (h : Run.Partition (fs.map (run k))) : Run.Partition (fs.map (run l)) := by
  obtain ⟨hsolid, halt⟩ := h
  constructor
  · intro r hr
    obtain ⟨f, hf, rfl⟩ := List.mem_map.mp hr
    exact solid_run l (hsolid _ (List.mem_map_of_mem hf))
  · rw [List.isChain_map] at halt ⊢
    simpa only [kind_run l k] using halt

end Figure

/-! ## Readings -/

namespace Line

/-- Some figures are the runs of a line as they are read in a key. -/
def Reads (k : Key) (s : List Char) (fs : List Figure) : Prop := runs s = fs.map (Figure.run k)

variable {k : Key} {s : List Char} {fs : List Figure}

theorem Reads.partition (h : Reads k s fs) : Run.Partition (fs.map (Figure.run k)) := by
  rw [← h]
  exact partition_runs s

theorem Reads.solid (h : Reads k s fs) {f : Figure} (hf : f ∈ fs) : (f.run k).Solid :=
  h.partition.solid _ (List.mem_map_of_mem hf)

theorem Reads.eq_write (h : Reads k s fs) : s = Figure.write k fs := by
  rw [Figure.write, ← h, text_runs]

/-- Figures are read back from the line that they are written as, in any key. -/
theorem Reads.write (h : Reads k s fs) (l : Key) : Reads l (Figure.write l fs) fs :=
  runs_flatten (Figure.partition_map_run l h.partition)

end Line

/-! ## Moving the runs of a line -/

namespace Transposition

variable {t : Transposition}

theorem runs_map_run (t : Transposition) (fs : List Figure) :
    t.runs (fs.map (Figure.run t.source)) =
      .ok (Figure.write t.target fs, fs.countP Figure.isSymbol) := by
  induction fs with
  | nil => rfl
  | cons f fs ih =>
    have hsym := Figure.isSymbol_run t.source f
    cases f with
    | plain r h => exact runs_cons_of_not_symbol h ih
    | degrees ds hne hle =>
      have hword := (Run.solid_spell t.source hne).word_eq rfl
      have hmoved : t.symbol (Run.word ⟨.word, t.source.spell ds⟩) = .ok (t.target.spell ds) := by
        rw [hword, symbol_spell hne]
      rw [List.countP_cons_of_pos rfl]
      exact runs_cons_of_symbol hsym hmoved ih

theorem exists_figure_of_symbol {r : Run} {moved : List Char} (hr : r.Solid)
    (hsym : r.isSymbol = true) (h : t.symbol r.word = .ok moved) :
    ∃ f : Figure, r = f.run t.source := by
  obtain ⟨hk, hs⟩ := hr.isSymbol_iff.mp hsym
  obtain ⟨ds, hne, hds⟩ := exists_spell_of_symbol h
  rw [hr.word_eq hk] at hds
  rw [hds, isSymbol_spell_iff _ hne] at hs
  refine ⟨.degrees ds hne hs, ?_⟩
  rw [Figure.run, ← hds, ← hk]

theorem exists_figures_of_runs {rs : List Run} {p : List Char × Nat} (hs : ∀ r ∈ rs, r.Solid)
    (h : t.runs rs = .ok p) : ∃ fs : List Figure, rs = fs.map (Figure.run t.source) := by
  induction rs generalizing p with
  | nil => exact ⟨[], rfl⟩
  | cons r rs ih =>
    have hr := hs r List.mem_cons_self
    have hrs : ∀ q ∈ rs, q.Solid := fun q hq => hs q (List.mem_cons_of_mem _ hq)
    cases hrest : t.runs rs with
    | error e =>
      simp only [runs, hrest] at h
      split at h
      · cases hm : t.symbol r.word <;> rw [hm] at h <;> cases h
      · cases h
    | ok q =>
      obtain ⟨fs, rfl⟩ := ih hrs hrest
      cases hsym : r.isSymbol with
      | false => exact ⟨.plain r hsym :: fs, rfl⟩
      | true =>
        cases hm : t.symbol r.word with
        | error e =>
          simp only [runs, hsym, hm] at h
          cases h
        | ok moved =>
          obtain ⟨f, rfl⟩ := exists_figure_of_symbol hr hsym hm
          exact ⟨f :: fs, rfl⟩

/-- **A line moves exactly if it has a reading in the source key**; its figures are then written
in the target key, and the symbols among them are counted. -/
theorem line_eq_ok_iff {l : String} {m : MovedLine} :
    t.line l = .ok m ↔
      ∃ fs, Line.Reads t.source l.toList fs ∧
        m = ⟨String.ofList (Figure.write t.target fs), fs.countP Figure.isSymbol⟩ := by
  constructor
  · intro h
    cases hruns : t.runs (Line.runs l.toList) with
    | error e =>
      rw [line, hruns] at h
      cases h
    | ok p =>
      obtain ⟨fs, hfs⟩ := exists_figures_of_runs (Line.partition_runs l.toList).solid hruns
      rw [line, hfs, runs_map_run] at h
      exact ⟨fs, hfs, (Except.ok.inj h).symm⟩
  · rintro ⟨fs, hfs, rfl⟩
    rw [line, hfs, runs_map_run]
    rfl

/-! ## What stops a line -/

end Transposition

/-- The leftmost foreign side of a run, if the run is a symbol. -/
def Run.foreignSide? (k : Key) (r : Run) : Option (List Char) :=
  if r.isSymbol then k.foreignSide? r.word else none

namespace Transposition

variable {t : Transposition}

theorem foreignSide?_eq_none_of_symbol {w moved : List Char} (h : t.symbol w = .ok moved) :
    t.source.foreignSide? w = none := by
  rw [Option.eq_none_iff_forall_ne_some]
  intro side hside
  have herr := symbol_eq_error_iff.mpr ⟨side, hside, rfl⟩
  rw [h] at herr
  cases herr

theorem runs_eq_error_iff {rs : List Run} {e : TranspositionError} :
    t.runs rs = .error e ↔
      ∃ side, rs.findSome? (Run.foreignSide? t.source) = some side ∧
        e = .invalidChord (String.ofList side) := by
  induction rs with
  | nil => simp [runs]
  | cons r rs ih =>
    rw [List.findSome?_cons, Run.foreignSide?, runs]
    cases hsym : r.isSymbol with
    | false =>
      cases hrest : t.runs rs with
      | error e' =>
        rw [hrest] at ih
        exact ih
      | ok p =>
        rw [hrest] at ih
        simpa [bind, Except.bind, pure, Except.pure] using ih
    | true =>
      cases hm : t.symbol r.word with
      | error e' =>
        obtain ⟨side, hside, rfl⟩ := symbol_eq_error_iff.mp hm
        simp [hside, bind, Except.bind, eq_comm]
      | ok moved =>
        have hnone := foreignSide?_eq_none_of_symbol hm
        cases hrest : t.runs rs with
        | error e' =>
          rw [hrest] at ih
          simpa [hnone, bind, Except.bind] using ih
        | ok p =>
          rw [hrest] at ih
          simpa [hnone, bind, Except.bind, pure, Except.pure] using ih

/-- **A line that does not move is stopped by its leftmost foreign side**, whatever the target. -/
theorem line_eq_error_iff {l : String} {e : TranspositionError} :
    t.line l = .error e ↔
      ∃ side, (Line.runs l.toList).findSome? (Run.foreignSide? t.source) = some side ∧
        e = .invalidChord (String.ofList side) := by
  rw [← runs_eq_error_iff, line]
  cases t.runs (Line.runs l.toList) with
  | error e' => simp [bind, Except.bind]
  | ok p => simp [bind, Except.bind, pure, Except.pure]

/-! ## Moving from key to key -/

/-- **Moving a line is a groupoid action.** A line that was moved from `a` to `b` moves on to `c`
exactly as the line itself moves from `a` to `c`; it moves back to the line itself, which also
stays as it is from `a` to `a`. A line that does not move from `a` does so for no target, and
always for the same reason. -/
theorem line_comp (l : String) (a b c : Key) :
    (∀ m, Transposition.line ⟨a, b⟩ l = .ok m →
      (∃ text, Transposition.line ⟨b, c⟩ m.text = .ok ⟨text, m.chords⟩ ∧
        Transposition.line ⟨a, c⟩ l = .ok ⟨text, m.chords⟩) ∧
      Transposition.line ⟨b, a⟩ m.text = .ok ⟨l, m.chords⟩) ∧
    (∀ m, Transposition.line ⟨a, a⟩ l = .ok m → m.text = l) ∧
    (∀ e, Transposition.line ⟨a, b⟩ l = .error e → Transposition.line ⟨a, c⟩ l = .error e) := by
  refine ⟨?_, ?_, ?_⟩
  · intro m hm
    obtain ⟨fs, hfs, rfl⟩ := line_eq_ok_iff.mp hm
    have hb : Line.Reads b (String.ofList (Figure.write b fs)).toList fs := by
      rw [String.toList_ofList]
      exact hfs.write b
    have hl : String.ofList (Figure.write a fs) = l := by
      rw [← hfs.eq_write, String.ofList_toList]
    refine ⟨⟨String.ofList (Figure.write c fs), ?_, ?_⟩, ?_⟩
    · exact line_eq_ok_iff.mpr ⟨fs, hb, rfl⟩
    · exact line_eq_ok_iff.mpr ⟨fs, hfs, rfl⟩
    · rw [line_eq_ok_iff]
      exact ⟨fs, hb, by rw [hl]⟩
  · intro m hm
    obtain ⟨fs, hfs, rfl⟩ := line_eq_ok_iff.mp hm
    show String.ofList (Figure.write a fs) = l
    rw [← hfs.eq_write, String.ofList_toList]
  · intro e he
    rw [line_eq_error_iff] at he ⊢
    exact he

end Transposition

end ChordSheet
