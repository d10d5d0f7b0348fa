import Mathlib.Data.List.Forall2
import ChordSheet.Host
import ChordSheet.SheetFile
import ChordSheet.Proofs.Entries
import ChordSheet.Proofs.Growth

/-!
# Files are transposed whole or not at all

The transposition of a file writes once, after everything that can fail before. So it happens
completely or fails without effect where a single write does; elsewhere a write that breaks off is
the one failure with an effect, on the one file that is written. What is written has one line feed
for each line that was read, for no symbol and no marker brings a line feed into a line.

* `Rendition.count_newline` : a transposition has as many line feeds as the file has lines.
* `LawfulFiles` : what every file system keeps to.
* `AtomicFiles` : what a file system keeps to whose writes do not break off; a host is one.
* `SheetFile.run_transpose` : the three ways in which a transposition goes.
* `SheetFile.transpose_effect` : what a transposition leaves behind.
-/

set_option autoImplicit false

namespace ChordSheet

/-! ## Line feeds -/

namespace Text

theorem unlines_cons (l : List Char) (ls : List (List Char)) :
    unlines (l :: ls) = l ++ '\n' :: unlines ls := by
  simp [unlines]

/-- A text made of lines has as many line feeds as lines. -/
theorem count_newline_unlines {ls : List (List Char)} (h : ∀ l ∈ ls, '\n' ∉ l) :
    (unlines ls).count '\n' = ls.length := by
  induction ls with
  | nil => rfl
  | cons l ls ih =>
    have hl : l.count '\n' = 0 := List.count_eq_zero.mpr (h l List.mem_cons_self)
    have hls := ih fun m hm => h m (List.mem_cons_of_mem _ hm)
    rw [unlines_cons, List.count_append, List.count_cons_self, hl, hls, List.length_cons]
    omega

theorem contentOf_eq_join (ls : List String) : contentOf ls = String.join (ls.map (· ++ "\n")) := by
  apply String.toList_inj.mp
  rw [contentOf, String.toList_ofList, String.toList_join]
  simp [unlines, List.flatMap_map]

theorem not_newline_mem_linesOf {content l : String} (h : l ∈ linesOf content) :
    '\n' ∉ l.toList := by
  obtain ⟨s, hs, rfl⟩ := List.mem_map.mp h
  rw [String.toList_ofList]
  exact not_newline_mem_lines hs

end Text

/-- Figures hold a line feed in every key or in none. -/
theorem Figure.newline_mem_write_iff (k l : Key) (fs : List Figure) :
    '\n' ∈ write k fs ↔ '\n' ∈ write l fs := by
  have hspell : ∀ (j : Key) (ds : List Degree), '\n' ∉ j.spell ds := by
    intro j ds hmem
    have hne := j.forall_mem_spell ds (p := (· != '\n')) (by decide) _ hmem
    cases hne
  have hrun : ∀ f : Figure, ('\n' ∈ (f.run k).text) = ('\n' ∈ (f.run l).text) :=
    text_run_congr ('\n' ∈ ·) fun ds _ => propext (iff_of_false (hspell k ds) (hspell l ds))
  simp only [write, Run.flatten, List.mem_flatMap, List.mem_map, exists_exists_and_eq_and, hrun]

theorem Entry.Reads.newline_not_mem_write {k : Key} {l : String} {e : Entry} (h : e.Reads k l)
    (hl : '\n' ∉ l.toList) (j : Key) : '\n' ∉ (e.write j).toList := by
  cases h with
  | marker _ => cases j <;> decide
  | text _ => exact hl
  | chords _ hfs =>
    rw [Entry.write, String.toList_ofList, Figure.newline_mem_write_iff j k, ← hfs.eq_write]
    exact hl

namespace Rendition

theorem newline_not_mem {lines : List String} {target : Key} {r : Rendition}
    (h : ofLines lines target = .ok r) (hl : ∀ l ∈ lines, '\n' ∉ l.toList) :
    ∀ m ∈ r.lines, '\n' ∉ m.toList := by
  obtain ⟨es, hes, hlines, _⟩ := ofLines_eq_ok_iff.mp h
  rw [hlines]
  intro m hm
  obtain ⟨e, he, rfl⟩ := List.mem_map.mp hm
  obtain ⟨i, hi⟩ := List.mem_iff_getElem?.mp he
  obtain ⟨l, hli, hr⟩ := hes.exists_line hi
  exact hr.newline_not_mem_write (hl l (List.mem_of_getElem? hli)) target

theorem length_lines {lines : List String} {target : Key} {r : Rendition}
    (h : ofLines lines target = .ok r) : r.lines.length = lines.length := by
  obtain ⟨es, hes, hlines, _⟩ := ofLines_eq_ok_iff.mp h
  rw [hlines, List.length_map, hes.reads.length_eq]

/-- **A transposition has as many line feeds as the text has lines.** -/
theorem count_newline {content : String} {target : Key} {r : Rendition}
    (h : ofLines (Text.linesOf content) target = .ok r) :
    (Text.contentOf r.lines).toList.count '\n' = (Text.linesOf content).length := by
  have hnone := newline_not_mem h fun l hl => Text.not_newline_mem_linesOf hl
  have hsides : ∀ s ∈ r.lines.map String.toList, '\n' ∉ s := by
    intro s hs
    obtain ⟨m, hm, rfl⟩ := List.mem_map.mp hs
    exact hnone m hm
  rw [Text.contentOf, String.toList_ofList, Text.count_newline_unlines hsides, List.length_map,
    length_lines h]

end Rendition

/-! ## File systems -/

/-- How the state of a file system is looked at: a path leads to a place or nowhere, and at a
place something may stand. -/
class FileView (σ : Type) where
  /-- Where things can stand. -/
  Place : Type
  /-- The place to which a path leads. -/
  place? : σ → Path → Option Place
  /-- What stands at a place. -/
  thing? : σ → Place → Option Node

namespace FileView

variable {σ : Type} [FileView σ]

/-- A path leads to a file with this content. -/
def Holds (s : σ) (p : Path) (content : ByteArray) : Prop :=
  ∃ l, place? s p = some l ∧ thing? s l = some (.file content)

/-- Nothing has changed but what stands where a path leads. -/
structure ChangedAt (p : Path) (before after : σ) : Prop where
  place_eq : ∀ q, place? after q = place? before q
  thing_eq : ∀ l, place? before p ≠ some l → thing? after l = thing? before l

theorem ChangedAt.refl (p : Path) (s : σ) : ChangedAt p s s := ⟨fun _ => rfl, fun _ _ => rfl⟩

end FileView

open FileView

/-- A file system in which reading changes nothing, and writing changes one file: it holds the
content if the write succeeds. A write that fails may have broken off, so that the file is lost. -/
class LawfulFiles (σ : Type) [FileSystem (StateM σ)] [FileView σ] : Prop where
  read : ∀ (p : Path) (s : σ), ∃ result,
    (FileSystem.read p : StateM σ (Except FileError ByteArray)).run s = (result, s) ∧
      ∀ content, result = .ok content ↔ Holds s p content
  write : ∀ (p : Path) (content : ByteArray) (s : σ), ∃ result after,
    (FileSystem.write p content : StateM σ (Except FileError Unit)).run s = (result, after) ∧
      ChangedAt p s after ∧ (result = .ok () → Holds after p content)

/-- A file system in which, moreover, a single write happens completely or fails without
effect. -/
class AtomicFiles (σ : Type) [FileSystem (StateM σ)] [FileView σ] : Prop extends
    LawfulFiles σ where
  write_error : ∀ {p : Path} {content : ByteArray} {e : FileError} {s after : σ},
    (FileSystem.write p content : StateM σ (Except FileError Unit)).run s = (.error e, after) →
      after = s

instance : FileView Host where
  Place := Location
  place? h p := (h.disk.locate p).toOption
  thing? h l := h.disk.node? l

namespace Host

theorem place?_eq_some_iff {h : Host} {p : Path} {l : Location} :
    place? h p = some l ↔ h.disk.locate p = .ok l := by
  show (h.disk.locate p).toOption = some l ↔ _
  cases h.disk.locate p <;> simp [Except.toOption]

theorem holds_iff {h : Host} {p : Path} {content : ByteArray} :
    Holds h p content ↔ h.disk.read p = .ok content := by
  rw [Disk.read_eq_ok_iff]
  refine exists_congr fun l => ?_
  rw [Disk.lookup_eq_ok_iff, ← place?_eq_some_iff]
  rfl

theorem changedAt_write {h : Host} {p : Path} {content : ByteArray} {disk : Disk}
    (hw : h.disk.write p content = .ok disk) : ChangedAt p h { h with disk := disk } := by
  constructor
  · intro q
    apply Option.ext
    intro l
    rw [place?_eq_some_iff, place?_eq_some_iff]
    exact Disk.locate_write hw
  · intro l hl
    obtain ⟨k, hk, hset⟩ := Disk.node?_write hw
    have hne : l ≠ k := by
      rintro rfl
      exact hl (place?_eq_some_iff.mpr (Disk.locate_of_writeTarget hk))
    exact (hset l).trans (if_neg hne)

end Host

instance : AtomicFiles Host where
  read p h := ⟨h.disk.read p, rfl, fun _ => Host.holds_iff.symm⟩
  write p content h := by
    cases hw : h.disk.write p content with
    | error e =>
      refine ⟨.error e, h, ?_, .refl p h, nofun⟩
      simp only [FileSystem.write, StateT.run, hw]
    | ok disk =>
      refine ⟨.ok (), { h with disk := disk }, ?_, Host.changedAt_write hw,
        fun _ => Host.holds_iff.mpr (Disk.read_write hw)⟩
      simp only [FileSystem.write, StateT.run, hw]
  write_error {p content e s after} h := by
    simp only [FileSystem.write, StateT.run] at h
    split at h
    · cases h
    · cases h
      rfl

/-! ## Transposing a file -/

theorem run_bind {σ α β : Type} (x : StateM σ α) (f : α → StateM σ β) (s : σ) :
    (x >>= f).run s = (f (x.run s).1).run (x.run s).2 := rfl

theorem run_pure {σ α : Type} (a : α) (s : σ) : (pure a : StateM σ α).run s = (a, s) := rfl

theorem toUTF8_of_fromUTF8? {bytes : ByteArray} {text : String}
    (h : String.fromUTF8? bytes = some text) : text.toUTF8 = bytes := by
  unfold String.fromUTF8? at h
  split at h
  · cases h
    rfl
  · cases h

theorem fromUTF8?_toUTF8 (text : String) : String.fromUTF8? text.toUTF8 = some text := by
  simp only [String.fromUTF8?, String.toUTF8_eq_toByteArray, dif_pos text.isValidUTF8]
  rfl

namespace SheetFile

section Lawful

variable {σ : Type} [FileSystem (StateM σ)] [FileView σ] [LawfulFiles σ]

/-- A file is read as text without a change. -/
theorem run_readText (p : Path) (s : σ) : ∃ result,
    (FileSystem.readText p : StateM σ (Except FileError String)).run s = (result, s) ∧
      ∀ content, result = .ok content → Holds s p content.toUTF8 := by
  obtain ⟨result, hrun, hholds⟩ := LawfulFiles.read p s
  rw [FileSystem.readText, run_bind, hrun]
  cases result with
  | error e => exact ⟨.error e, rfl, fun _ h => by cases h⟩
  | ok bytes =>
    cases htext : String.fromUTF8? bytes with
    | none => exact ⟨.error .notText, by simp only [htext]; rfl, fun _ h => by cases h⟩
    | some text =>
      refine ⟨.ok text, by simp only [htext]; rfl, ?_⟩
      rintro content ⟨⟩
      rw [toUTF8_of_fromUTF8? htext]
      exact (hholds bytes).mp rfl

/-- A file that holds a text is read as that text. -/
theorem run_readText_of_holds {p : Path} {content : String} {s : σ}
    (h : Holds s p content.toUTF8) :
    (FileSystem.readText p : StateM σ (Except FileError String)).run s = (.ok content, s) := by
  obtain ⟨result, hrun, hread⟩ := LawfulFiles.read p s
  obtain rfl := (hread _).mpr h
  rw [FileSystem.readText, run_bind, hrun]
  simp only [fromUTF8?_toUTF8]
  rfl

theorem run_readLines (p : Path) (s : σ) : ∃ result,
    (readLines p : StateM σ (Except FileError (List String))).run s = (result, s) ∧
      ∀ lines, result = .ok lines →
        ∃ content : String, Holds s p content.toUTF8 ∧ lines = Text.linesOf content := by
  obtain ⟨result, hrun, hholds⟩ := run_readText p s
  rw [readLines, run_bind, hrun]
  refine ⟨result.map Text.linesOf, rfl, ?_⟩
  intro lines h
  cases result with
  | error e => cases h
  | ok content => exact ⟨content, hholds content rfl, (Except.ok.inj h).symm⟩

theorem run_readLines_of_holds {p : Path} {content : String} {s : σ}
    (h : Holds s p content.toUTF8) :
    (readLines p : StateM σ (Except FileError (List String))).run s =
      (.ok (Text.linesOf content), s) := by
  rw [readLines, run_bind, run_readText_of_holds h]
  rfl

/-- Lines are written to one file, which holds them unless the write fails. -/
theorem run_writeLines (p : Path) (lines : List String) (s : σ) : ∃ result after,
    (writeLines p lines : StateM σ (Except FileError Unit)).run s = (result, after) ∧
      ChangedAt p s after ∧
      (result = .ok () → Holds after p (Text.contentOf lines).toUTF8) :=
  LawfulFiles.write p _ s

/-- **A transposition fails without effect, or its write fails, or it writes the transposed
lines.** In the last two cases nothing else has changed. -/
theorem run_transpose (input : Path) (suffix : String) (target : Key) (s : σ) :
    (∃ f, (∀ p e, f ≠ .write p e) ∧
      (transpose input suffix target : StateM σ (Except Failure Outcome)).run s = (.error f, s)) ∨
    ∃ (content : String) (r : Rendition) (result : Except FileError Unit) (after : σ),
      Holds s input content.toUTF8 ∧
      Rendition.ofLines (Text.linesOf content) target = .ok r ∧
      (writeLines (Path.output input suffix target) r.lines :
        StateM σ (Except FileError Unit)).run s = (result, after) ∧
      ChangedAt (Path.output input suffix target) s after ∧
      match result with
      | .error e => (transpose input suffix target : StateM σ (Except Failure Outcome)).run s =
          (.error (.write (Path.output input suffix target) e), after)
      | .ok () => (transpose input suffix target : StateM σ (Except Failure Outcome)).run s =
          (.ok ⟨Path.output input suffix target, r.source, target, r.report⟩, after) ∧
        Holds after (Path.output input suffix target) (Text.contentOf r.lines).toUTF8 := by
  obtain ⟨result, hread, hlines⟩ := run_readLines input s
  rw [transpose, run_bind, hread]
  cases result with
  | error e => exact .inl ⟨.read input e, nofun, rfl⟩
  | ok lines =>
    obtain ⟨content, hcontent, rfl⟩ := hlines lines rfl
    cases hr : Rendition.ofLines (Text.linesOf content) target with
    | error e =>
      dsimp only
      rw [hr]
      exact .inl ⟨.transpose input e, nofun, rfl⟩
    | ok r =>
      dsimp only
      rw [hr]
      dsimp only
      rw [run_bind]
      obtain ⟨written, after, hwrite, hchanged, hholds⟩ :=
        run_writeLines (Path.output input suffix target) r.lines s
      refine .inr ⟨content, r, written, after, hcontent, hr, hwrite, hchanged, ?_⟩
      rw [hwrite]
      cases written with
      | error e => rfl
      | ok => exact ⟨rfl, hholds rfl⟩

/-- A transposition that succeeds was computed from what the file held, and was written. -/
theorem run_transpose_of_ok {input : Path} {suffix : String} {target : Key} {s after : σ}
    {o : Outcome}
    (h : (transpose input suffix target : StateM σ (Except Failure Outcome)).run s =
      (.ok o, after)) :
    ∃ (content : String) (r : Rendition),
      o = ⟨Path.output input suffix target, r.source, target, r.report⟩ ∧
      Holds s input content.toUTF8 ∧
      Rendition.ofLines (Text.linesOf content) target = .ok r ∧
      Holds after (Path.output input suffix target) (Text.contentOf r.lines).toUTF8 ∧
      ChangedAt (Path.output input suffix target) s after := by
  rcases run_transpose input suffix target s with
    ⟨f, -, hrun⟩ | ⟨content, r, result, written, hcontent, hr, -, hchanged, hrun⟩
  · rw [hrun] at h
    cases h
  cases result with
  | error e =>
    rw [hrun] at h
    cases h
  | ok =>
    rw [hrun.1] at h
    cases h
    exact ⟨content, r, rfl, hcontent, hr, hrun.2, hchanged⟩

end Lawful

variable {σ : Type} [FileSystem (StateM σ)] [FileView σ] [AtomicFiles σ]

/-- A transposition that fails has no effect where writes have none that fail. -/
theorem run_transpose_of_error {input : Path} {suffix : String} {target : Key} {s after : σ}
    {f : Failure}
    (h : (transpose input suffix target : StateM σ (Except Failure Outcome)).run s =
      (.error f, after)) : after = s := by
  rcases run_transpose input suffix target s with
    ⟨f', -, hrun⟩ | ⟨_, _, result, written, _, _, hwrite, _, hrun⟩
  · rw [hrun] at h
    cases h
    rfl
  cases result with
  | error e =>
    rw [hrun] at h
    cases h
    exact AtomicFiles.write_error hwrite
  | ok =>
    rw [hrun.1] at h
    cases h

/-- **Files are transposed whole or not at all.** An error leaves the file system as it was. A
success leaves the transposed lines of the file at the output path, each ended by a line feed, and
nothing else has changed; the outcome tells the source key of the lines that were read and the
report on them, and there are as many line feeds as lines. -/
theorem transpose_effect {input : Path} {suffix : String} {target : Key} {before after : σ}
    {result : Except Failure Outcome}
    (h : (transpose input suffix target : StateM σ (Except Failure Outcome)).run before =
      (result, after)) :
    match result with
    | .error _ => after = before
    | .ok o => ∃ (content : String) (r : Rendition),
        Holds before input content.toUTF8 ∧
        Rendition.ofLines (Text.linesOf content) target = .ok r ∧
        sourceKey? (Text.linesOf content) = some o.source ∧
        o = ⟨Path.output input suffix target, r.source, target, r.report⟩ ∧
        Holds after o.output (String.join (r.lines.map (· ++ "\n"))).toUTF8 ∧
        ChangedAt o.output before after ∧
        (String.join (r.lines.map (· ++ "\n"))).toList.count '\n' =
          (Text.linesOf content).length := by
  cases result with
  | error f => exact run_transpose_of_error h
  | ok o =>
    obtain ⟨content, r, rfl, hcontent, hr, hholds, hchanged⟩ := run_transpose_of_ok h
    obtain ⟨es, hes, _⟩ := Rendition.ofLines_eq_ok_iff.mp hr
    have hnewlines := Rendition.count_newline hr
    rw [Text.contentOf_eq_join] at hholds hnewlines
    exact ⟨content, r, hcontent, hr, hes.source, rfl, hholds, hchanged, hnewlines⟩

theorem transpose_effect_two_lines :
    let host : Host := ⟨⟨[(["song.txt"], .file "Key: G\r\nG/D    Em".toUTF8)], []⟩, []⟩
    ∃ after,
      (transpose "song.txt" "_in_" .C : StateM Host (Except Failure Outcome)).run host =
        (.ok ⟨"song_in_C.txt", .G, .C, ⟨2, 1, 1, 2⟩⟩, after) ∧
      Holds after "song_in_C.txt" "C key\nC/G    Am\n".toUTF8 ∧
      ChangedAt "song_in_C.txt" host after := by
  intro host
  have hrun : ((transpose "song.txt" "_in_" .C : StateM Host (Except Failure Outcome)).run host).1 =
      .ok ⟨"song_in_C.txt", .G, .C, ⟨2, 1, 1, 2⟩⟩ := by decide +kernel
  refine ⟨_, Prod.ext hrun rfl, ?_⟩
  obtain ⟨content, r, hcontent, hr, _, _, hholds, hchanged, _⟩ :=
    transpose_effect (Prod.ext hrun rfl)
  have hread : host.disk.read "song.txt" = .ok "Key: G\r\nG/D    Em".toUTF8 := rfl
  rw [Host.holds_iff, hread, Except.ok.injEq] at hcontent
  obtain rfl := String.toByteArray_inj.mp hcontent
  have hlines : r.lines = ["C key", "C/G    Am"] := by
    have hrendition : Rendition.ofLines (Text.linesOf "Key: G\r\nG/D    Em") .C =
        .ok ⟨.G, ["C key", "C/G    Am"], ⟨2, 1, 1, 2⟩⟩ := by decide +kernel
    rw [hrendition] at hr
    cases hr
    rfl
  rw [hlines] at hholds
  exact ⟨hholds, hchanged⟩

end SheetFile

end ChordSheet
