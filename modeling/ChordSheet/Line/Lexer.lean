import ChordSheet.Line.Run

/-!
# Reading the runs of a line

A *lexer* stands at a place of a line. It takes the kind of the character there, looks for the
first character of the other kind, cuts out the text up to it, and goes on from there until the
line is at its end. Places and lengths are counted in bytes, whereas kinds belong to characters, so
every cut could be misplaced; none is, and what is read are the runs of the line.

* `Lexer.next_cons`, `Lexer.next_nil` : what one step reads.
* `Lexer.remaining_lt` : every step that reads a run comes closer to the end.
* `Lexer.run_ofLine` : all steps together read the runs of the line, at their places.
-/

set_option autoImplicit false

namespace ChordSheet

namespace Run

/-- The run at the head of a text that starts with the character `c`. -/
def leading (c : Char) (cs : List Char) : Run :=
  ⟨.ofChar c, (c :: cs).takeWhile fun d => RunKind.ofChar d == .ofChar c⟩

/-- What follows the run at the head of a text. -/
def afterLeading (c : Char) (cs : List Char) : List Char :=
  (c :: cs).dropWhile fun d => RunKind.ofChar d == .ofChar c

theorem text_leading_append (c : Char) (cs : List Char) :
    (leading c cs).text ++ afterLeading c cs = c :: cs :=
  List.takeWhile_append_dropWhile

theorem byteLength_leading_pos (c : Char) (cs : List Char) :
    0 < Text.byteLength (leading c cs).text := by
  have pos := c.utf8Size_pos
  simp only [leading, List.takeWhile_cons, beq_self_eq_true, if_true, Text.byteLength]
  omega

theorem length_afterLeading_lt (c : Char) (cs : List Char) :
    (afterLeading c cs).length < (c :: cs).length := by
  simp only [afterLeading, List.dropWhile_cons, beq_self_eq_true, if_true, List.length_cons]
  exact Nat.lt_succ_of_le (List.dropWhile_sublist _).length_le

end Run

theorem Line.runs_cons (c : Char) (cs : List Char) :
    Line.runs (c :: cs) = Run.leading c cs :: Line.runs (Run.afterLeading c cs) := by
  induction cs generalizing c with
  | nil => simp [runs, Run.push, Run.leading, Run.afterLeading]
  | cons d ds ih =>
    rw [runs, ih d, Run.push]
    cases hk : RunKind.ofChar d == RunKind.ofChar c with
    | true =>
      have heq := eq_of_beq hk
      simp [Run.leading, Run.afterLeading, heq]
    | false =>
      have hne := ne_of_beq_false hk
      simp [Run.leading, Run.afterLeading, hne, ih d]

/-- A reader of runs: a line and the place that it has come to. -/
structure Lexer where
  /-- The line. -/
  input : List Char
  /-- The number of bytes before the place. -/
  position : Nat
  deriving DecidableEq, Repr

namespace Lexer

/-- The lexer at the start of a line. -/
def ofLine (line : String) : Lexer := ⟨line.toList, 0⟩

/-- The number of bytes up to the next character of another kind, or else to the end. -/
def runLength (x : Lexer) (kind : RunKind) : Except Text.Misplaced Nat := do
  let rest ← Text.textFrom x.position x.input
  let other := (Text.charIndices 0 rest).find? fun e => !(RunKind.ofChar e.2 == kind)
  pure ((other.map Prod.fst).getD (Text.byteLength x.input - x.position))

/-- Reads one run and goes behind it; at the end of the line there is none. -/
def next (x : Lexer) : Except Text.Misplaced (Option (Span × Lexer)) := do
  match ← Text.textFrom x.position x.input with
  | [] => pure none
  | c :: _ =>
    let kind := RunKind.ofChar c
    let length ← x.runLength kind
    let text ← Text.slice x.position length x.input
    pure (some (⟨kind, String.ofList text, x.position⟩, ⟨x.input, x.position + length⟩))

/-! ## One step -/

section Step

variable {x y : Lexer} {span : Span} {before rest cs : List Char} {c : Char}

theorem runLength_eq (kind : RunKind) :
    runLength ⟨before ++ rest, Text.byteLength before⟩ kind =
      .ok (Text.byteLength (rest.takeWhile fun d => RunKind.ofChar d == kind)) := by
  have htotal : Text.byteLength (before ++ rest) - Text.byteLength before =
      Text.byteLength rest := by
    rw [Text.byteLength_append, Nat.add_sub_cancel_left]
  have hfind := Text.find?_charIndices (fun d => RunKind.ofChar d == kind) 0 rest
  simp only [Nat.zero_add] at hfind
  simp only [runLength, Text.textFrom_append, bind, Except.bind, pure, Except.pure, htotal, hfind]

theorem next_nil : next ⟨before, Text.byteLength before⟩ = .ok none := by
  have hrest := Text.textFrom_append before []
  rw [List.append_nil] at hrest
  simp [next, hrest, bind, Except.bind, pure, Except.pure]

/-- **A step reads the run at the head of what is left**, and no cut is misplaced. -/
theorem next_cons (before : List Char) (c : Char) (cs : List Char) :
    next ⟨before ++ c :: cs, Text.byteLength before⟩ =
      .ok (some
        (⟨.ofChar c, String.ofList (Run.leading c cs).text, Text.byteLength before⟩,
          ⟨before ++ c :: cs,
            Text.byteLength before + Text.byteLength (Run.leading c cs).text⟩)) := by
  have hlength : runLength ⟨before ++ c :: cs, Text.byteLength before⟩ (.ofChar c) =
      .ok (Text.byteLength (Run.leading c cs).text) := runLength_eq _
  have hslice := Text.slice_append before (Run.leading c cs).text (Run.afterLeading c cs)
  rw [Run.text_leading_append] at hslice
  simp only [next, Text.textFrom_append, hlength, hslice, bind, Except.bind, pure, Except.pure]

/-- A step that reads a run starts where a character does. -/
theorem exists_of_next (h : x.next = .ok (some (span, y))) :
    ∃ before c cs, x = ⟨before ++ c :: cs, Text.byteLength before⟩ := by
  obtain ⟨input, position⟩ := x
  cases hrest : Text.textFrom position input with
  | error e => simp [next, hrest, bind, Except.bind] at h
  | ok rest =>
    obtain ⟨before, rfl, rfl⟩ := Text.append_of_textFrom hrest
    cases rest with
    | nil =>
      rw [List.append_nil, next_nil] at h
      cases h
    | cons c cs => exact ⟨before, c, cs, rfl⟩

/-- **Every step that reads a run comes closer to the end.** -/
theorem remaining_lt (h : x.next = .ok (some (span, y))) :
    Text.byteLength y.input - y.position < Text.byteLength x.input - x.position := by
  obtain ⟨before, c, cs, rfl⟩ := exists_of_next h
  rw [next_cons] at h
  cases h
  have pos := Run.byteLength_leading_pos c cs
  have hc := c.utf8Size_pos
  simp only [Text.byteLength_append, Text.byteLength]
  omega

end Step

/-! ## All steps -/

/-- Reads the runs from the place of the lexer to the end of the line. -/
def run (x : Lexer) : Except Text.Misplaced (List Span) :=
  match _ : x.next with
  | .error e => .error e
  | .ok none => .ok []
  | .ok (some (span, y)) => do
    let spans ← y.run
    pure (span :: spans)
termination_by Text.byteLength x.input - x.position
decreasing_by exact remaining_lt (by assumption)

theorem run_of_next_none {x : Lexer} (h : x.next = .ok none) : x.run = .ok [] := by
  rw [run]
  split <;> simp_all

theorem run_of_next_some {x y : Lexer} {span : Span} (h : x.next = .ok (some (span, y))) :
    x.run = (do let spans ← y.run; pure (span :: spans)) := by
  rw [run]
  split <;> simp_all

theorem run_eq (before rest : List Char) :
    run ⟨before ++ rest, Text.byteLength before⟩ =
      .ok (Run.place (Text.byteLength before) (Line.runs rest)) := by
  match rest with
  | [] =>
    rw [List.append_nil]
    exact run_of_next_none next_nil
  | c :: cs =>
    -- behind the run at the head the lexer stands at a place of the same form
    have hrest := run_eq (before ++ (Run.leading c cs).text) (Run.afterLeading c cs)
    rw [List.append_assoc, Run.text_leading_append, Text.byteLength_append] at hrest
    rw [run_of_next_some (next_cons before c cs), hrest, Line.runs_cons]
    rfl
termination_by rest.length
decreasing_by exact Run.length_afterLeading_lt c cs

/-- **All steps together read the runs of a line**, at their places. -/
theorem run_ofLine (line : String) :
    (ofLine line).run = .ok (Run.place 0 (Line.runs line.toList)) :=
  run_eq [] line.toList

end Lexer

namespace Line

/-- The spans of a line, as the lexer reads them from its start. -/
def spans (line : String) : List Span :=
  match h : (Lexer.ofLine line).run with
  | .ok spans => spans
  | .error _ => nomatch h.symm.trans (Lexer.run_ofLine line)

theorem run_ofLine_eq_spans (line : String) : (Lexer.ofLine line).run = .ok (spans line) := by
  unfold spans
  split
  · assumption
  · rename_i h
    exact nomatch h.symm.trans (Lexer.run_ofLine line)

theorem spans_eq_place (line : String) : spans line = Run.place 0 (runs line.toList) :=
  Except.ok.inj ((run_ofLine_eq_spans line).symm.trans (Lexer.run_ofLine line))

end Line

end ChordSheet
