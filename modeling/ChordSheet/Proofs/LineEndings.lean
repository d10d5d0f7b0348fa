import ChordSheet.Proofs.SheetFiles
import ChordSheet.Proofs.WholeSheet

/-!
# Which line endings are kept

A transposition is meant to keep every line break in place. A line of a text ends in a line feed, or
in a carriage return and a line feed, or with the text; but the lines of a file are read without
their endings and are written with a line feed each. So the promise is broken: the transposition of
a file has the endings of the file only if all of these are line feeds, and a line of text comes out
with the ending it had only if that is one. Here is said what is kept, and what is lost.

* `Text.map_line_endedLines`, `Text.join_text_endedLines` : lines and endings make up a text.
* `Text.join_newlines_eq_iff` : when the endings of a text outlive its lines.
* `SheetFile.transpose_endings` : which endings a transposition keeps.
* `SheetFile.endings_lost` : two endings that it loses.
-/

set_option autoImplicit false

namespace ChordSheet

/-! ## Lines and their endings -/

namespace Text

/-- How a line of a text ends. -/
inductive Ending where
  /-- With a line feed. -/
  | feed
  /-- With a carriage return and a line feed. -/
  | returnFeed
  /-- With the text. -/
  | missing
  deriving DecidableEq, Repr

/-- What stands in the text for an ending. -/
def Ending.text : Ending → String
  | feed => "\n"
  | returnFeed => "\r\n"
  | missing => ""

/-- A line and its ending. -/
structure EndedLine where
  /-- The line without its ending. -/
  line : String
  /-- How it ends. -/
  ending : Ending
  deriving DecidableEq, Repr

namespace EndedLine

/-- The line as it stands in the text. -/
def text (e : EndedLine) : String := e.line ++ e.ending.text

/-- The line that stands before a line feed. -/
def ofPiece (p : List Char) : EndedLine :=
  if p.getLast? = some '\r' then ⟨String.ofList p.dropLast, .returnFeed⟩
  else ⟨String.ofList p, .feed⟩

theorem line_ofPiece (p : List Char) : (ofPiece p).line = String.ofList (dropReturn p) := by
  unfold ofPiece
  split
  · rename_i h
    obtain ⟨q, rfl⟩ := List.getLast?_eq_some_iff.mp h
    rw [List.dropLast_concat, dropReturn_concat]
  · rename_i h
    rw [dropReturn_eq_self h]

theorem text_ofPiece (p : List Char) : (ofPiece p).text.toList = p ++ ['\n'] := by
  unfold ofPiece
  split
  · rename_i h
    obtain ⟨q, rfl⟩ := List.getLast?_eq_some_iff.mp h
    rw [List.dropLast_concat]
    simp [text, Ending.text]
  · simp [text, Ending.text]

theorem ending_ofPiece_ne_missing (p : List Char) : (ofPiece p).ending ≠ .missing := by
  unfold ofPiece
  split <;> simp

end EndedLine

/-- The lines and endings of a text that was cut at its line feeds. -/
def endedLinesOfPieces : List (List Char) → List EndedLine
  | [] => []
  | [rest] => if rest = [] then [] else [⟨String.ofList rest, .missing⟩]
  | p :: ps => .ofPiece p :: endedLinesOfPieces ps

/-- The lines of a text, each with its ending. -/
def endedLines (content : String) : List EndedLine :=
  endedLinesOfPieces (pieces '\n' content.toList)

theorem map_line_endedLinesOfPieces (ps : List (List Char)) :
    (endedLinesOfPieces ps).map EndedLine.line = (linesOfPieces ps).map String.ofList := by
  fun_induction endedLinesOfPieces ps with
  | case1 => rfl
  | case2 => rfl
  | case3 rest hne => simp [linesOfPieces, hne]
  | case4 p ps hps ih =>
    rw [linesOfPieces, List.map_cons, List.map_cons, ih, EndedLine.line_ofPiece]
    exact hps

theorem toList_join_endedLinesOfPieces (ps : List (List Char)) :
    (String.join ((endedLinesOfPieces ps).map EndedLine.text)).toList = join '\n' ps := by
  fun_induction endedLinesOfPieces ps with
  | case1 => rfl
  | case2 => rfl
  | case3 rest hne => simp [join, EndedLine.text, Ending.text]
  | case4 p ps hps ih =>
    obtain ⟨q, qs, rfl⟩ := List.exists_cons_of_ne_nil hps
    rw [List.map_cons, String.join_cons, String.toList_append, ih, EndedLine.text_ofPiece,
      join_cons_cons, List.append_assoc, List.singleton_append]

/-- The lines with their endings are those of the text. -/
theorem map_line_endedLines (content : String) :
    (endedLines content).map EndedLine.line = linesOf content :=
  map_line_endedLinesOfPieces _

/-- The lines and their endings make up the text. -/
theorem join_text_endedLines (content : String) :
    String.join ((endedLines content).map EndedLine.text) = content := by
  rw [← String.toList_inj, endedLines, toList_join_endedLinesOfPieces, join_pieces]

/-- Lines, each with the ending of the line of a text in whose place it stands. -/
def withEndings (es : List EndedLine) (ls : List String) : String :=
  String.join (List.zipWith (fun e l => l ++ e.ending.text) es ls)

theorem append_newline_eq_iff {p : List Char} {l s t : String} :
    l ++ "\n" ++ s = l ++ (EndedLine.ofPiece p).ending.text ++ t ↔
      (EndedLine.ofPiece p).ending = .feed ∧ s = t := by
  rw [← String.toList_inj, ← @String.toList_inj s]
  cases h : (EndedLine.ofPiece p).ending with
  | feed => simp [Ending.text]
  | returnFeed => simp [Ending.text]
  | missing => exact absurd h (EndedLine.ending_ofPiece_ne_missing p)

theorem join_newlines_eq_iff_of_pieces {ps : List (List Char)} {ls : List String}
    (h : (endedLinesOfPieces ps).length = ls.length) :
    String.join (ls.map (· ++ "\n")) = withEndings (endedLinesOfPieces ps) ls ↔
      ∀ e ∈ endedLinesOfPieces ps, e.ending = .feed := by
  fun_induction endedLinesOfPieces ps generalizing ls with
  | case1 =>
    obtain rfl := List.eq_nil_of_length_eq_zero h.symm
    simp [withEndings]
  | case2 =>
    obtain rfl := List.eq_nil_of_length_eq_zero h.symm
    simp [withEndings]
  | case3 rest hne =>
    obtain ⟨l, rfl⟩ := List.length_eq_one_iff.mp h.symm
    simp [withEndings, Ending.text, ← String.toList_inj]
  | case4 p ps hps ih =>
    cases ls with
    | nil => cases h
    | cons l ls =>
      have hlength := Nat.succ.inj h
      rw [List.forall_mem_cons, ← ih hlength, List.map_cons, String.join_cons, withEndings,
        List.zipWith_cons_cons, String.join_cons]
      exact append_newline_eq_iff

/-- **Lines that end in line feeds have the endings of a text only if all of these are line
feeds.** -/
theorem join_newlines_eq_iff {content : String} {ls : List String}
    (h : (endedLines content).length = ls.length) :
    String.join (ls.map (· ++ "\n")) = withEndings (endedLines content) ls ↔
      ∀ e ∈ endedLines content, e.ending = .feed :=
  join_newlines_eq_iff_of_pieces h

end Text

/-! ## Endings in a transposition -/

/-- What a line with its ending becomes: a transposed line with a line feed, in which a line of
text is as it was, with the ending that it had only if that is a line feed. -/
structure Text.EndedLine.Becomes (t : Transposition) (e : Text.EndedLine) (written : String) :
    Prop where
  transposed : ∃ m, Line.Becomes t e.line m ∧ written = m ++ "\n"
  text : Line.kind e.line = .text →
    written = e.line ++ "\n" ∧ (written = e.text ↔ e.ending = .feed)

theorem Line.Becomes.ended {t : Transposition} {e : Text.EndedLine} {m : String}
    (h : Line.Becomes t e.line m) : e.Becomes t (m ++ "\n") := by
  refine ⟨⟨m, h, rfl⟩, fun hkind => ?_⟩
  obtain rfl := h.text hkind
  refine ⟨rfl, ?_⟩
  obtain ⟨line, ending⟩ := e
  rw [Text.EndedLine.text, ← String.toList_inj]
  cases ending <;> simp [Text.Ending.text]

namespace SheetFile

open FileView Text

variable {σ : Type} [FileSystem (StateM σ)] [FileView σ] [LawfulFiles σ]

/-- **Only line feeds are kept.** A file that is transposed leaves each of its lines, transposed and
with a line feed, whatever ending the line had. The endings of the file stand in the transposition
exactly if all of them are line feeds, and so does the ending of a line of text, the rest of which
is kept; any other ending is lost. -/
theorem transpose_endings {input : Path} {suffix : String} {target : Key} {before after : σ}
    {o : Outcome}
    (h : (transpose input suffix target : StateM σ (Except Failure Outcome)).run before =
      (.ok o, after)) :
    ∃ (content : String) (r : Rendition),
      Holds before input content.toUTF8 ∧
      Rendition.ofLines (linesOf content) target = .ok r ∧
      Holds after o.output (String.join (r.lines.map (· ++ "\n"))).toUTF8 ∧
      List.Forall₂ (EndedLine.Becomes ⟨r.source, target⟩) (endedLines content)
        (r.lines.map (· ++ "\n")) ∧
      (String.join (r.lines.map (· ++ "\n")) = withEndings (endedLines content) r.lines ↔
        ∀ e ∈ endedLines content, e.ending = .feed) := by
  obtain ⟨content, r, rfl, hcontent, hr, hholds, -⟩ := run_transpose_of_ok h
  have hbecomes := Rendition.forall₂_becomes hr
  rw [← map_line_endedLines, List.forall₂_map_left_iff] at hbecomes
  rw [contentOf_eq_join] at hholds
  refine ⟨content, r, hcontent, hr, hholds, ?_, join_newlines_eq_iff hbecomes.length_eq⟩
  rw [List.forall₂_map_right_iff]
  exact hbecomes.imp fun _ _ hm => hm.ended

theorem transpose_endings_three_lines :
    let host : Host := ⟨⟨[(["song.txt"], .file "Key: C\r\nla\nC/G".toUTF8)], []⟩, []⟩
    ∃ after,
      (transpose "song.txt" "_in_" .D : StateM Host (Except Failure Outcome)).run host =
        (.ok ⟨"song_in_D.txt", .C, .D, ⟨3, 1, 1, 1⟩⟩, after) ∧
      Holds after "song_in_D.txt" "D key\nla\nD/A\n".toUTF8 ∧
      List.Forall₂ (EndedLine.Becomes ⟨.C, .D⟩)
        [⟨"Key: C", .returnFeed⟩, ⟨"la", .feed⟩, ⟨"C/G", .missing⟩]
        ["D key\n", "la\n", "D/A\n"] := by
  intro host
  have hrun : ((transpose "song.txt" "_in_" .D : StateM Host (Except Failure Outcome)).run host).1 =
      .ok ⟨"song_in_D.txt", .C, .D, ⟨3, 1, 1, 1⟩⟩ := by decide +kernel
  refine ⟨_, Prod.ext hrun rfl, ?_⟩
  obtain ⟨content, r, hcontent, hr, hholds, hbecomes, -⟩ :=
    transpose_endings (Prod.ext hrun rfl)
  have hread : host.disk.read "song.txt" = .ok "Key: C\r\nla\nC/G".toUTF8 := rfl
  rw [Host.holds_iff, hread, Except.ok.injEq] at hcontent
  obtain rfl := String.toByteArray_inj.mp hcontent
  have hrendition : Rendition.ofLines (linesOf "Key: C\r\nla\nC/G") .D =
      .ok ⟨.C, ["D key", "la", "D/A"], ⟨3, 1, 1, 1⟩⟩ := by decide +kernel
  rw [hrendition] at hr
  cases hr
  exact ⟨hholds, hbecomes⟩

/-- **Endings that are lost.** A carriage return before a line feed does not stand in the
transposition, and a text that ended without a line feed ends with one. -/
theorem endings_lost :
    let content := "Key: C\r\nla la"
    let host : Host := ⟨⟨[(["song.txt"], .file content.toUTF8)], []⟩, []⟩
    let run := (transpose "song.txt" "_in_" .D : StateM Host (Except Failure Outcome)).run host
    endedLines content = [⟨"Key: C", .returnFeed⟩, ⟨"la la", .missing⟩] ∧
      Line.kind "la la" = .text ∧
      Rendition.ofLines (linesOf content) .D =
        .ok ⟨.C, ["D key", "la la"], ⟨2, 1, 0, 0⟩⟩ ∧
      run.1 = .ok ⟨"song_in_D.txt", .C, .D, ⟨2, 1, 0, 0⟩⟩ ∧
      run.2.disk.read "song_in_D.txt" = .ok "D key\nla la\n".toUTF8 ∧
      run.2.disk.read "song_in_D.txt" ≠
        .ok (withEndings (endedLines content) ["D key", "la la"]).toUTF8 := by
  decide +kernel

end SheetFile

end ChordSheet
