import ChordSheet.Config
import ChordSheet.Proofs.FileWork

/-!
# Where transpositions are written

A transposition is written under the last part of its name, and into the directory of its sheet
unless there is a slash in the suffix. So it changes neither the sheet nor anything outside that
directory, and the transpositions of different sheets of a directory, or to different keys, do not
meet. The settings let a suffix with a slash pass, and then both can fail.

All this is about names that are text. Where a name is none, its bytes that are not text are
replaced when a transposition is named after it, so that the transpositions of two sheets meet whose
names differ in such bytes only.

* `Disk.Sound.place_output` : the place of a transposition.
* `SheetFile.transpose_beside` : a transposition stands beside its sheet.
* `SheetFile.transpositions_apart` : transpositions do not overwrite each other.
* `SheetFile.sheet_overwritten`, `SheetFile.transposition_overwritten` : what a slash in the suffix
  can do.
-/

set_option autoImplicit false

namespace ChordSheet

namespace Disk

variable {d : Disk} {p : Path} {l here : Location} {name : String} {content bytes : ByteArray}

theorem Sound.slash_not_mem (hd : d.Sound) (h : d.lookup p = .ok (here ++ [name], .file content)) :
    '/' ∉ name.toList :=
  (hd.properName (lookup_eq_ok_iff.mp h).2 name (by simp)).slash

/-- **Where a transposition is**: in the directory of the sheet unless there is a slash in the
suffix, and under what stands behind the last slash of its name. -/
theorem Sound.place_output (hd : d.Sound) {suffix : String} {key : Key}
    (hp : d.lookup p = .ok (here ++ [name], .file content))
    (hout : d.lookup (Path.output p suffix key) = .ok (l, .file bytes)) :
    ∃ there, l = there ++ [String.ofList (Path.lastPart name.toList suffix.toList key)] ∧
      ('/' ∉ suffix.toList → there = here) := by
  obtain ⟨before, there, last, hnames, hwalk, -, rfl⟩ := hd.names_of_file hout
  obtain ⟨kept, -, hkept, hwalk'⟩ := hd.names_output suffix key hp
  have hsplit : outputNames name suffix key =
      ((Text.pieces '/' (Path.outputName name.toList suffix.toList key)).dropLast).map
        String.ofList ++ [String.ofList (Path.lastPart name.toList suffix.toList key)] := by
    rw [outputNames, ← List.map_singleton, ← List.map_append, Path.lastPart,
      List.dropLast_append_getLast]
  rw [hkept, hsplit, ← List.append_assoc] at hnames
  obtain ⟨hbefore, hlast⟩ := List.append_inj' hnames rfl
  refine ⟨there, by rw [hlast], fun hsuffix => ?_⟩
  rw [Text.pieces_of_not_mem (Path.slash_not_mem_outputName (hd.slash_not_mem hp) hsuffix key)]
    at hbefore
  rw [← hbefore, List.dropLast_singleton, List.map_nil, List.append_nil, hwalk'] at hwalk
  exact (Except.ok.inj hwalk).symm

end Disk

namespace SheetFile

open FileView

variable {input : Path} {suffix : String} {target : Key} {before after : Host}

theorem grows_of_run {result : Except Failure Outcome}
    (h : (transpose input suffix target : StateM Host (Except Failure Outcome)).run before =
      (result, after)) : before.disk.Grows after.disk := by
  rw [Disk.run_transpose_eq] at h
  cases h
  exact before.disk.grows_transposed input suffix target

/-- What a transposition changes is the file at its path, which was made from a sheet. -/
theorem exists_of_changed {result : Except Failure Outcome} {l : Location}
    (h : (transpose input suffix target : StateM Host (Except Failure Outcome)).run before =
      (result, after)) (hl : after.disk.node? l ≠ before.disk.node? l) :
    (∃ k content, before.disk.lookup input = .ok (k, .file content)) ∧
      ∃ bytes, after.disk.lookup (Path.output input suffix target) = .ok (l, .file bytes) := by
  cases result with
  | error f =>
    obtain rfl := run_transpose_of_error h
    exact absurd rfl hl
  | ok o =>
    obtain ⟨content, r, -, hcontent, -, hholds, hchanged⟩ := run_transpose_of_ok h
    refine ⟨?_, (Text.contentOf r.lines).toUTF8, ?_⟩
    · obtain ⟨k, hk⟩ := Disk.read_eq_ok_iff.mp (Host.holds_iff.mp hcontent)
      exact ⟨k, _, hk⟩
    · refine Disk.lookup_of_read (Host.holds_iff.mp hholds) (Host.place?_eq_some_iff.mp ?_)
      rw [hchanged.place_eq]
      by_contra hne
      exact hl (hchanged.thing_eq l hne)

/-- **A transposition stands beside its sheet and never over it.** With the suffix of any settings,
every path with a file name has the path of its transposition in its own directory and under another
name exactly if there is no slash in the suffix. Then all that a transposition changes stands in the
directory of the sheet, under another name. -/
theorem transpose_beside (content : String) :
    ((∀ (input : Path) (key : Key) (name : List Char),
        Path.fileName? input.toList = some name →
        Path.parent? (Path.output input (Config.parse content).outputSuffix key).toList =
            Path.parent? input.toList ∧
          ∃ new, Path.fileName?
              (Path.output input (Config.parse content).outputSuffix key).toList = some new ∧
            new ≠ name) ↔
      '/' ∉ (Config.parse content).outputSuffix.toList) ∧
    ('/' ∉ (Config.parse content).outputSuffix.toList →
      ∀ (before after : Host) (input : Path) (key : Key) (result : Except Failure Outcome)
        (l : Location), before.disk.Sound →
        (transpose input (Config.parse content).outputSuffix key :
          StateM Host (Except Failure Outcome)).run before = (result, after) →
        after.disk.node? l ≠ before.disk.node? l →
        ∃ here name new bytes, before.disk.lookup input = .ok (here ++ [name], .file bytes) ∧
          l = here ++ [new] ∧ new ≠ name) := by
  generalize (Config.parse content).outputSuffix = suffix
  refine ⟨⟨fun h hslash => ?_, fun hsuffix input key name hname => ?_⟩, ?_⟩
  · exact Path.parent?_output_ne hslash .C (h "song.txt" .C _ rfl).1
  · obtain ⟨hnew, hparent⟩ := Path.parent?_output hname hsuffix key
    exact ⟨hparent, _, hnew, Path.outputName_ne _ _ _⟩
  · intro hsuffix before after input key result l hsound hrun hl
    obtain ⟨⟨k, bytes, hinput⟩, written, hout⟩ := exists_of_changed hrun hl
    obtain ⟨-, here, name, -, -, hname, rfl⟩ := hsound.names_of_file hinput
    have hgrows := grows_of_run hrun
    obtain ⟨sheet, hsheet⟩ := hgrows.lookup_file hinput
    obtain ⟨there, rfl, hthere⟩ := (hgrows.sound hsound).place_output hsheet hout
    obtain rfl := hthere hsuffix
    refine ⟨there, name, _, bytes, hinput, rfl, fun he => ?_⟩
    rw [Path.lastPart_of_not_mem hname.slash hsuffix, ← String.toList_inj,
      String.toList_ofList] at he
    exact Path.outputName_ne _ _ _ he

theorem transpose_beside_dash :
    let host : Host := ⟨⟨[(["song.txt"], .file "Key: C\nC/G\n".toUTF8)], []⟩, []⟩
    (Path.parent? "songs/song-D.txt".toList = Path.parent? "songs/song.txt".toList ∧
      ∃ new, Path.fileName? "songs/song-D.txt".toList = some new ∧ new ≠ "song.txt".toList) ∧
    ∃ after,
      (transpose "song.txt" "-" .D : StateM Host (Except Failure Outcome)).run host =
        (.ok ⟨"song-D.txt", .C, .D, ⟨2, 1, 1, 1⟩⟩, after) ∧
      ∀ l, after.disk.node? l ≠ host.disk.node? l → ∃ here name new bytes,
        host.disk.lookup "song.txt" = .ok (here ++ [name], .file bytes) ∧
        l = here ++ [new] ∧ new ≠ name := by
  intro host
  obtain ⟨hpaths, hfiles⟩ := transpose_beside "output_suffix = -\n"
  have hslash : '/' ∉ (Config.parse "output_suffix = -\n").outputSuffix.toList := by decide
  have hsound : host.disk.Sound := Disk.sound_single (by constructor <;> decide) _ _
  have hrun : ((transpose "song.txt" "-" .D : StateM Host (Except Failure Outcome)).run host).1 =
      .ok ⟨"song-D.txt", .C, .D, ⟨2, 1, 1, 1⟩⟩ := by decide +kernel
  exact ⟨hpaths.mpr hslash "songs/song.txt" .D _ rfl, _, Prod.ext hrun rfl,
    fun l => hfiles hslash host _ "song.txt" .D _ l hsound (Prod.ext hrun rfl)⟩

/-- **The loss of a sheet.** The settings of this text put the transposition of a sheet in the place
of the sheet. -/
theorem sheet_overwritten :
    let settings := Config.parse "output_suffix=/../\n"
    let host : Host :=
      ⟨⟨[(["D.txt"], .file "Key: C\nC/G\n".toUTF8), (["D"], .directory)], []⟩, []⟩
    let run := (transpose "D.txt" settings.outputSuffix .D :
      StateM Host (Except Failure Outcome)).run host
    settings.outputSuffix = "/../" ∧
      run.1 = .ok ⟨"D/../D.txt", .C, .D, ⟨2, 1, 1, 1⟩⟩ ∧
      Path.parent? "D/../D.txt".toList ≠ Path.parent? "D.txt".toList ∧
      run.2.disk.read "D.txt" = .ok "D key\nD/A\n".toUTF8 := by
  decide +kernel

/-- **Transpositions do not overwrite each other.** Paths with file names in one directory have
different transpositions unless names and keys are the same. What is at the path of one
transposition stays there when a sheet of the same directory is transposed, to another key, or under
another name with a suffix that has no slash in it. -/
theorem transpositions_apart (suffix : String) :
    (∀ (p q : Path) (name other : List Char) (k l : Key),
      Path.fileName? p.toList = some name → Path.fileName? q.toList = some other →
      Path.parent? p.toList = Path.parent? q.toList →
      (Path.output p suffix k = Path.output q suffix l ↔ name = other ∧ k = l)) ∧
    ∀ (before after : Host) (p q : Path) (k l : Key) (here : Location) (name other : String)
      (sheet sheet' content : ByteArray) (result : Except Failure Outcome), before.disk.Sound →
      before.disk.lookup p = .ok (here ++ [name], .file sheet) →
      before.disk.lookup q = .ok (here ++ [other], .file sheet') →
      k ≠ l ∨ name ≠ other ∧ '/' ∉ suffix.toList →
      (transpose q suffix l : StateM Host (Except Failure Outcome)).run before = (result, after) →
      Holds before (Path.output p suffix k) content →
      Holds after (Path.output p suffix k) content := by
  refine ⟨fun p q name other k l hp hq hdir => Path.output_inj hp hq hdir, ?_⟩
  intro before after p q k l here name other sheet sheet' content result hsound hp hq hdiffer hrun
    hholds
  rw [Host.holds_iff, Disk.read_eq_ok_iff] at hholds ⊢
  obtain ⟨place, hplace⟩ := hholds
  have hgrows := grows_of_run hrun
  obtain ⟨hlocate, hnode⟩ := Disk.lookup_eq_ok_iff.mp hplace
  refine ⟨place, Disk.lookup_eq_ok_iff.mpr ⟨hgrows.locate hlocate, ?_⟩⟩
  by_contra hchanged
  -- both transpositions would be written at one place
  obtain ⟨-, _, hout⟩ := exists_of_changed hrun (hnode ▸ hchanged)
  have hsound' := hgrows.sound hsound
  obtain ⟨_, hp'⟩ := hgrows.lookup_file hp
  obtain ⟨_, hq'⟩ := hgrows.lookup_file hq
  obtain ⟨_, hplace'⟩ := hgrows.lookup_file hplace
  obtain ⟨_, rfl, -⟩ := hsound'.place_output hp' hplace'
  obtain ⟨_, hsame, -⟩ := hsound'.place_output hq' hout
  have hlast := (List.cons.inj (List.append_inj' hsame rfl).2).1
  rw [← String.toList_inj, String.toList_ofList, String.toList_ofList] at hlast
  obtain ⟨hkeys, hnames⟩ :=
    Path.lastPart_inj (hsound.slash_not_mem hp) (hsound.slash_not_mem hq) hlast
  rcases hdiffer with hkey | ⟨hname, hsuffix⟩
  · exact hkey hkeys
  · exact hname (String.toList_inj.mp (hnames hsuffix))

theorem transpositions_apart_two_sheets :
    let host : Host := ⟨⟨[(["a.txt"], .file "Key: C\nC/G\n".toUTF8),
      (["b.txt"], .file "Key: C\nF/C\n".toUTF8), (["a-D.txt"], .file "D key\nD/A\n".toUTF8)], []⟩,
      []⟩
    (Path.output "a.txt" "-" .D = Path.output "b.txt" "-" .D ↔
      "a.txt".toList = "b.txt".toList ∧ Note.D = Note.D) ∧
    ∃ after,
      (transpose "b.txt" "-" .D : StateM Host (Except Failure Outcome)).run host =
        (.ok ⟨"b-D.txt", .C, .D, ⟨2, 1, 1, 1⟩⟩, after) ∧
      Holds after "a-D.txt" "D key\nD/A\n".toUTF8 := by
  intro host
  obtain ⟨hpaths, hfiles⟩ := transpositions_apart "-"
  refine ⟨hpaths "a.txt" "b.txt" _ _ .D .D rfl rfl rfl, ?_⟩
  have hsound : host.disk.Sound := by
    refine Disk.sound_of_names ?_
    simp only [List.mem_cons, List.not_mem_nil, or_false]
    rintro entry (rfl | rfl | rfl) <;> exact ⟨_, rfl, by constructor <;> decide⟩
  have hrun : ((transpose "b.txt" "-" .D : StateM Host (Except Failure Outcome)).run host).1 =
      .ok ⟨"b-D.txt", .C, .D, ⟨2, 1, 1, 1⟩⟩ := by decide +kernel
  have hholds : Holds host (Path.output "a.txt" "-" .D) "D key\nD/A\n".toUTF8 :=
    Host.holds_iff.mpr rfl
  exact ⟨_, Prod.ext hrun rfl, hfiles host _ "a.txt" "b.txt" .D .D [] "a.txt" "b.txt" _ _ _ _ hsound
    rfl rfl (.inr ⟨by decide, by decide⟩) (Prod.ext hrun rfl) hholds⟩

/-- **The loss of a transposition.** With this suffix the transpositions of two sheets of a
directory are written to one file, though their paths are different. -/
theorem transposition_overwritten :
    let host : Host := ⟨⟨[(["a.txt"], .file "Key: C\nC/G\n".toUTF8), (["a"], .directory),
      (["b.txt"], .file "Key: C\nF/C\n".toUTF8), (["b"], .directory)], []⟩, []⟩
    let first := (transpose "a.txt" "/../x" .D : StateM Host (Except Failure Outcome)).run host
    let second := (transpose "b.txt" "/../x" .D : StateM Host (Except Failure Outcome)).run first.2
    first.1 = .ok ⟨"a/../xD.txt", .C, .D, ⟨2, 1, 1, 1⟩⟩ ∧
      first.2.disk.read "a/../xD.txt" = .ok "D key\nD/A\n".toUTF8 ∧
      second.1 = .ok ⟨"b/../xD.txt", .C, .D, ⟨2, 1, 1, 1⟩⟩ ∧
      second.2.disk.read "a/../xD.txt" = .ok "D key\nG/D\n".toUTF8 := by
  decide +kernel

end SheetFile

end ChordSheet
