import ChordSheet.Line.Lexer
import ChordSheet.Proofs.Partition

/-!
# The spans of a line are its only partition

The lexer reads every line to its end, and what it reads is told by the line alone: spans that are
not empty, make up the line, are blank or not by turns, and start where the spans before them end.
No other list of spans is of that form, and no other list of texts either, if the kinds and the
places are left out.

* `Run.place_eq_iff` : places are the sizes of what stands before.
* `Line.spanPartition_iff` : the spans of a line are its only partition into spans.
* `Line.cut_iff` : the texts of the spans are the only ones that make up the line by turns.
* `Line.lexer_partition` : the lexer reads a line to its end, and reads its only partition.
-/

set_option autoImplicit false

namespace ChordSheet

/-! ## Runs and their places -/

/-- A span without its place. -/
def Span.run (s : Span) : Run := ⟨s.kind, s.text.toList⟩

/-- The number of bytes of some spans. -/
def Span.size : List Span → Nat
  | [] => 0
  | s :: ss => s.text.utf8ByteSize + size ss

/-- Every span starts where the spans before it end, the first at `start`. -/
def Span.Placed (start : Nat) (ss : List Span) : Prop :=
  ∀ before s after, ss = before ++ s :: after → s.start = start + Span.size before

theorem Span.placed_cons_iff {start : Nat} {s : Span} {ss : List Span} :
    Placed start (s :: ss) ↔ s.start = start ∧ Placed (start + s.text.utf8ByteSize) ss := by
  constructor
  · intro h
    refine ⟨h [] s ss rfl, ?_⟩
    rintro before q after rfl
    rw [h (s :: before) q after rfl, size, Nat.add_assoc]
  · rintro ⟨hs, hss⟩ before q after heq
    cases before with
    | nil =>
      cases heq
      exact hs
    | cons p before =>
      cases heq
      rw [hss before q after rfl, size, Nat.add_assoc]

/-- **Places are the sizes of what stands before.** -/
theorem Run.place_eq_iff {start : Nat} {rs : List Run} {ss : List Span} :
    place start rs = ss ↔ ss.map Span.run = rs ∧ Span.Placed start ss := by
  induction ss generalizing start rs with
  | nil =>
    cases rs with
    | nil => simp [place, Span.Placed]
    | cons r rs => simp [place]
  | cons s ss ih =>
    rw [Span.placed_cons_iff]
    cases rs with
    | nil => simp [place]
    | cons r rs =>
      obtain ⟨kind, text⟩ := r
      obtain ⟨kind', text', start'⟩ := s
      rw [place, List.map_cons, List.cons.injEq, List.cons.injEq, ih, Span.mk.injEq, Span.run,
        Run.mk.injEq]
      constructor
      · rintro ⟨⟨rfl, rfl, rfl⟩, hrs, hplaced⟩
        rw [Text.utf8ByteSize_ofList]
        exact ⟨⟨⟨rfl, String.toList_ofList⟩, hrs⟩, rfl, hplaced⟩
      · rintro ⟨⟨⟨rfl, rfl⟩, hrs⟩, rfl, hplaced⟩
        rw [← Text.utf8ByteSize_ofList, String.ofList_toList]
        exact ⟨⟨rfl, rfl, rfl⟩, hrs, hplaced⟩

theorem Span.toList_join (ss : List Span) :
    (String.join (ss.map Span.text)).toList = Run.flatten (ss.map Span.run) := by
  rw [String.toList_join, Run.flatten, List.flatMap_map, List.flatMap_map]
  rfl

theorem Span.size_eq (ss : List Span) :
    Span.size ss = (String.join (ss.map Span.text)).utf8ByteSize := by
  induction ss with
  | nil => rfl
  | cons s ss ih =>
    rw [size, ih, List.map_cons, String.join_cons, String.utf8ByteSize_append]

theorem Run.map_text_place (start : Nat) (rs : List Run) :
    (place start rs).map Span.text = rs.map fun r => String.ofList r.text := by
  induction rs generalizing start with
  | nil => rfl
  | cons r rs ih => rw [place, List.map_cons, List.map_cons, ih]

namespace Line

variable {line : String}

/-! ## Partitions into spans -/

/-- Spans that make up a line by turns, each at its place. -/
structure SpanPartition (line : String) (ss : List Span) : Prop where
  ne_empty : ∀ s ∈ ss, s.text ≠ ""
  join : String.join (ss.map Span.text) = line
  alternate : ss.IsChain fun s q => s.kind ≠ q.kind
  blank_iff : ∀ s ∈ ss, ∀ c ∈ s.text.toList, Text.isBlank c = true ↔ s.kind = .blank
  placed : Span.Placed 0 ss

theorem ofChar_eq_iff {c : Char} {k : RunKind} :
    RunKind.ofChar c = k ↔ (Text.isBlank c = true ↔ k = .blank) := by
  cases k <;> simp

theorem partition_map_run_iff {ss : List Span} :
    Run.Partition (ss.map Span.run) ↔
      (∀ s ∈ ss, s.text ≠ "") ∧ (ss.IsChain fun s q => s.kind ≠ q.kind) ∧
        ∀ s ∈ ss, ∀ c ∈ s.text.toList, Text.isBlank c = true ↔ s.kind = .blank := by
  have hsolid : ∀ s : Span, s.run.Solid ↔
      s.text ≠ "" ∧ ∀ c ∈ s.text.toList, Text.isBlank c = true ↔ s.kind = .blank := by
    intro s
    constructor
    · rintro ⟨hne, hkind⟩
      exact ⟨fun e => hne (by rw [Span.run, e]; rfl), fun c hc => ofChar_eq_iff.mp (hkind c hc)⟩
    · rintro ⟨hne, hblank⟩
      refine ⟨fun e => hne (String.toList_inj.mp e), fun c hc => ofChar_eq_iff.mpr (hblank c hc)⟩
  constructor
  · rintro ⟨hs, halt⟩
    rw [List.isChain_map] at halt
    have hall := fun s hs' => (hsolid s).mp (hs _ (List.mem_map_of_mem hs'))
    exact ⟨fun s hs' => (hall s hs').1, halt, fun s hs' => (hall s hs').2⟩
  · rintro ⟨hne, halt, hblank⟩
    refine ⟨?_, (List.isChain_map Span.run).mpr halt⟩
    intro r hr
    obtain ⟨s, hs, rfl⟩ := List.mem_map.mp hr
    exact (hsolid s).mpr ⟨hne s hs, hblank s hs⟩

/-- **The spans of a line are its only partition into spans.** -/
theorem spanPartition_iff {ss : List Span} : SpanPartition line ss ↔ ss = spans line := by
  rw [spans_eq_place, eq_comm, Run.place_eq_iff, eq_comm, runs_eq_iff, partition_map_run_iff,
    ← Span.toList_join, String.toList_inj]
  constructor
  · rintro ⟨hne, hjoin, halt, hblank, hplaced⟩
    exact ⟨⟨hjoin, hne, halt, hblank⟩, hplaced⟩
  · rintro ⟨⟨hjoin, hne, halt, hblank⟩, hplaced⟩
    exact ⟨hne, hjoin, halt, hblank, hplaced⟩

theorem partition_spans (line : String) : Run.Partition ((spans line).map Span.run) := by
  obtain ⟨hne, -, halt, hblank, -⟩ := spanPartition_iff.mpr (rfl : spans line = spans line)
  exact partition_map_run_iff.mpr ⟨hne, halt, hblank⟩

/-- A span reaches as far as its kind: the characters next to it are of the other kind. -/
theorem spans_maximal {before after : List Span} {s : Span}
    (h : spans line = before ++ s :: after) :
    (∀ c ∈ (String.join (before.map Span.text)).toList.getLast?, RunKind.ofChar c ≠ s.kind) ∧
      ∀ c ∈ (String.join (after.map Span.text)).toList.head?, RunKind.ofChar c ≠ s.kind := by
  have hp := partition_spans line
  rw [h, List.map_append, List.map_cons, Run.partition_append_iff, Run.partition_cons_iff] at hp
  obtain ⟨hbefore, ⟨_, hnext, hafter⟩, hlast⟩ := hp
  rw [Span.toList_join, Span.toList_join]
  constructor
  · intro c hc
    obtain ⟨r, hr, hrk⟩ := exists_mem_of_map_eq hbefore.getLast?_flatten hc
    rw [← hrk]
    exact hlast r hr s.run rfl
  · intro c hc
    obtain ⟨r, hr, hrk⟩ := exists_mem_of_map_eq hafter.head?_flatten hc
    rw [← hrk]
    exact (hnext r hr).symm

/-- A span starts and ends where characters of the line do. -/
theorem isValid_of_mem_spans {s : Span} (h : s ∈ spans line) :
    (⟨s.start⟩ : String.Pos.Raw).IsValid line ∧
      (⟨s.start + s.text.utf8ByteSize⟩ : String.Pos.Raw).IsValid line := by
  obtain ⟨before, after, hsplit⟩ := List.append_of_mem h
  obtain ⟨-, hjoin, -, -, hplaced⟩ := spanPartition_iff.mpr (rfl : spans line = spans line)
  have hstart : s.start = (String.join (before.map Span.text)).utf8ByteSize := by
    rw [hplaced before s after hsplit, Nat.zero_add, Span.size_eq]
  rw [hsplit, List.map_append, List.map_cons, String.join_append, String.join_cons] at hjoin
  rw [String.Pos.Raw.isValid_iff_exists_append, String.Pos.Raw.isValid_iff_exists_append]
  constructor
  · exact ⟨_, _, hjoin.symm, String.Pos.Raw.ext hstart⟩
  · refine ⟨_, _, (hjoin.symm.trans (String.append_assoc).symm), String.Pos.Raw.ext ?_⟩
    rw [hstart, String.byteIdx_rawEndPos, String.utf8ByteSize_append]

/-! ## Partitions into texts -/

/-- Texts that make up a line by turns of blanks and other characters. -/
structure Cut (line : String) (ts : List String) : Prop where
  ne_empty : ∀ t ∈ ts, t ≠ ""
  join : String.join ts = line
  uniform : ∀ t ∈ ts,
    (∀ c ∈ t.toList, Text.isBlank c = true) ∨ ∀ c ∈ t.toList, Text.isBlank c = false
  alternate : ts.IsChain fun t u =>
    ∀ c ∈ t.toList, ∀ d ∈ u.toList, Text.isBlank c ≠ Text.isBlank d

/-- The run with a text of one kind. -/
def runOf (t : String) : Run :=
  ⟨if t.toList.all Text.isBlank then .blank else .word, t.toList⟩

theorem solid_runOf {t : String} (hne : t ≠ "")
    (huniform : (∀ c ∈ t.toList, Text.isBlank c = true) ∨ ∀ c ∈ t.toList, Text.isBlank c = false) :
    (runOf t).Solid := by
  refine ⟨fun e => hne (String.toList_inj.mp e), fun c hc => ?_⟩
  rcases huniform with hblank | hword
  · rw [runOf, if_pos (List.all_eq_true.mpr hblank), RunKind.ofChar_eq_blank_iff]
    exact hblank c hc
  · have hall : t.toList.all Text.isBlank = false :=
      List.all_eq_false.mpr ⟨c, hc, by simp [hword c hc]⟩
    rw [runOf, hall, if_neg Bool.false_ne_true, RunKind.ofChar_eq_word_iff]
    exact hword c hc

/-- Two runs differ in kind exactly if no character of one is of the kind of one of the other. -/
theorem kind_ne_iff {r q : Run} (hr : r.Solid) (hq : q.Solid) :
    r.kind ≠ q.kind ↔ ∀ c ∈ r.text, ∀ d ∈ q.text, Text.isBlank c ≠ Text.isBlank d := by
  have hsame : ∀ c d, RunKind.ofChar c = RunKind.ofChar d ↔ Text.isBlank c = Text.isBlank d := by
    intro c d
    cases hc : Text.isBlank c <;> cases hd : Text.isBlank d <;> simp [RunKind.ofChar, hc, hd]
  constructor
  · intro hne c hc d hd heq
    rw [← hsame, hr.ofChar_eq c hc, hq.ofChar_eq d hd] at heq
    exact hne heq
  · intro hall heq
    obtain ⟨c, cs, hc⟩ := List.exists_cons_of_ne_nil hr.ne_nil
    obtain ⟨d, ds, hd⟩ := List.exists_cons_of_ne_nil hq.ne_nil
    have hcr : c ∈ r.text := hc ▸ List.mem_cons_self
    have hdq : d ∈ q.text := hd ▸ List.mem_cons_self
    refine hall c hcr d hdq ((hsame c d).mp ?_)
    rw [hr.ofChar_eq c hcr, hq.ofChar_eq d hdq, heq]

theorem Cut.runs_eq {ts : List String} (h : Cut line ts) : runs line.toList = ts.map runOf := by
  obtain ⟨hne, hjoin, huniform, halt⟩ := h
  have hsolid : ∀ t ∈ ts, (runOf t).Solid := fun t ht => solid_runOf (hne t ht) (huniform t ht)
  refine runs_eq_iff.mpr ⟨?_, ?_, (List.isChain_map runOf).mpr ?_⟩
  · rw [← hjoin, String.toList_join, Run.flatten, List.flatMap_map]
    rfl
  · intro r hr
    obtain ⟨t, ht, rfl⟩ := List.mem_map.mp hr
    exact hsolid t ht
  · exact halt.imp_of_mem_imp fun t u ht hu h => (kind_ne_iff (hsolid t ht) (hsolid u hu)).mpr h

theorem cut_spans (line : String) : Cut line ((spans line).map Span.text) := by
  obtain ⟨hne, hjoin, halt, -, -⟩ := spanPartition_iff.mpr (rfl : spans line = spans line)
  have hsolid : ∀ s ∈ spans line, s.run.Solid :=
    fun s hs => (partition_spans line).solid _ (List.mem_map_of_mem hs)
  refine ⟨?_, hjoin, ?_, (List.isChain_map Span.text).mpr ?_⟩
  · intro t ht
    obtain ⟨s, hs, rfl⟩ := List.mem_map.mp ht
    exact hne s hs
  · intro t ht
    obtain ⟨s, hs, rfl⟩ := List.mem_map.mp ht
    cases hk : s.kind with
    | blank => exact .inl ((hsolid s hs).isBlank_eq_true hk)
    | word => exact .inr ((hsolid s hs).isBlank_eq_false hk)
  · exact halt.imp_of_mem_imp fun s q hs hq h => (kind_ne_iff (hsolid s hs) (hsolid q hq)).mp h

/-- **The texts of the spans are the only ones that make up the line by turns.** -/
theorem cut_iff {ts : List String} : Cut line ts ↔ ts = (spans line).map Span.text := by
  constructor
  · intro h
    rw [spans_eq_place, Run.map_text_place, h.runs_eq, List.map_map]
    simp [Function.comp_def, runOf]
  · rintro rfl
    exact cut_spans line

/-! ## What the lexer reads -/

/-- **The lexer reads every line to its end, and reads its only partition.** No cut that it makes
is misplaced. Its spans are the only ones that make up the line by turns of blanks and other
characters, each at its place; their texts are the only ones that do so. Every span starts and ends
where characters of the line do, and the characters next to it are of the other kind. -/
theorem lexer_partition (line : String) :
    (Lexer.ofLine line).run = .ok (spans line) ∧
    (∀ ss, SpanPartition line ss ↔ ss = spans line) ∧
    (∀ ts, Cut line ts ↔ ts = (spans line).map Span.text) ∧
    (∀ s ∈ spans line, (⟨s.start⟩ : String.Pos.Raw).IsValid line ∧
      (⟨s.start + s.text.utf8ByteSize⟩ : String.Pos.Raw).IsValid line) ∧
    (∀ before s after, spans line = before ++ s :: after →
      (∀ c ∈ (String.join (before.map Span.text)).toList.getLast?, RunKind.ofChar c ≠ s.kind) ∧
      ∀ c ∈ (String.join (after.map Span.text)).toList.head?, RunKind.ofChar c ≠ s.kind) :=
  ⟨run_ofLine_eq_spans line, fun _ => spanPartition_iff, fun _ => cut_iff,
    fun _ => isValid_of_mem_spans, fun _ _ _ => spans_maximal⟩

end Line

end ChordSheet
