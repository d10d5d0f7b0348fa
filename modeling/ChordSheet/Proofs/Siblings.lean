import ChordSheet.Proofs.Growth
import ChordSheet.Proofs.OutputNames
import ChordSheet.SheetFile

/-!
# Transpositions stand beside their sheets

Whatever the spelling of a path that leads to a file, the path of its transposition goes through the
directory of the file and on with one and the same name. So it does not matter through which
spelling a sheet is transposed, save that a path can be too long to be asked for.

* `Disk.Sound.names_output` : the path of a transposition goes through the directory of the sheet.
* `Disk.Sound.write_output_eq` : every spelling of a sheet has its transposition at one place.
-/

set_option autoImplicit false

namespace ChordSheet

/-! ## Files and their transpositions -/

namespace Disk

variable {d : Disk} {p q : Path} {l here : Location} {content : ByteArray}

/-- A directory stands in a directory. -/
theorem Sound.directory_dropLast (hd : d.Sound) (h : d.node? l = some .directory) :
    d.node? l.dropLast = some .directory := by
  rcases List.eq_nil_or_concat l with rfl | ⟨l, name, rfl⟩
  · exact h
  · rw [List.concat_eq_append] at h
    simpa using (hd l name _ h).1

/-- The last name in a path that leads to a file is that of the file. -/
theorem Sound.names_of_file (hd : d.Sound) (h : d.lookup p = .ok (l, .file content)) :
    ∃ before here name, names p = before ++ [name] ∧ d.walk (d.start p) before = .ok here ∧
      ProperName name ∧ l = here ++ [name] := by
  obtain ⟨hlocate, hnode⟩ := lookup_eq_ok_iff.mp h
  obtain ⟨_, hwalk⟩ := follow_eq_ok_iff.mp (locate_eq_ok_iff.mp hlocate).2
  rcases List.eq_nil_or_concat (names p) with hnil | ⟨before, name, hnames⟩
  · exact absurd (List.map_eq_nil_iff.mp hnil) (Text.pieces_ne_nil _ _)
  · rw [List.concat_eq_append] at hnames
    rw [hnames, walk_append_eq_ok_iff] at hwalk
    obtain ⟨here, hbefore, hlast⟩ := hwalk
    obtain ⟨hdir, _, hnext⟩ := walk_cons_eq_ok_iff.mp hlast
    obtain rfl : next here name = l := Except.ok.inj hnext
    refine ⟨before, here, name, hnames, hbefore, ?_⟩
    -- a last name that is void or leads up leads to a directory
    unfold next at hnode ⊢
    split at hnode
    · rw [hdir] at hnode
      cases hnode
    · split at hnode
      · rw [hd.directory_dropLast hdir] at hnode
        cases hnode
      · rename_i hvoid hdots
        rw [if_neg hvoid, if_neg hdots]
        exact ⟨hd.properName hnode name (by simp), rfl⟩

theorem pieces_toList (p : Path) : Text.pieces '/' p.toList = (names p).map String.toList := by
  simp [names, Function.comp_def]

theorem ProperName.isName {name : String} (h : ProperName name) : Path.IsName name.toList := by
  have hne : name.toList ≠ [] := by simpa using h.ne_empty
  have hdot : name.toList ≠ ['.'] := fun he => h.ne_dot (String.toList_inj.mp he)
  exact ⟨by simp [Path.isVoid, hne, hdot], fun he => h.ne_dots (String.toList_inj.mp he)⟩

theorem ProperName.exists_outputName {name : String} (h : ProperName name) (suffix : List Char)
    (key : Key) : ∃ c rest, Path.outputName name.toList suffix key = c :: rest ∧ c ≠ '/' := by
  have hne : name.toList ≠ [] := by simpa using h.ne_empty
  obtain ⟨c, cs, hcs⟩ := List.exists_cons_of_ne_nil hne
  obtain ⟨rest, hrest⟩ := List.head?_eq_some_iff.mp
    ((Path.head?_outputName hne suffix key).trans (by rw [hcs]; rfl))
  refine ⟨c, rest, hrest, ?_⟩
  rintro rfl
  exact h.slash (hcs ▸ List.mem_cons_self)

theorem ProperName.head?_outputName_ne {name : String} (h : ProperName name) (suffix : List Char)
    (key : Key) : (Path.outputName name.toList suffix key).head? ≠ some '/' := by
  obtain ⟨c, rest, hnew, hc⟩ := h.exists_outputName suffix key
  rw [hnew]
  simpa using hc

/-- The names that a transposition adds to the directory of its sheet. -/
def outputNames (name suffix : String) (key : Key) : List String :=
  (Text.pieces '/' (Path.outputName name.toList suffix.toList key)).map String.ofList

theorem ProperName.exists_mem_outputNames {name : String} (h : ProperName name) (suffix : String)
    (key : Key) : ∃ m ∈ outputNames name suffix key, m ≠ "" := by
  obtain ⟨c, rest, hnew, hc⟩ := h.exists_outputName suffix.toList key
  obtain ⟨q, qs, hq⟩ := List.exists_cons_of_ne_nil (Text.pieces_ne_nil '/' rest)
  refine ⟨String.ofList (c :: q), ?_, by simp⟩
  simp [outputNames, hnew, Text.pieces, hc, hq]

/-- **The path of a transposition goes through the directory of the sheet**, by names in the path of
the sheet, and on with names that depend on the name of the sheet alone. -/
theorem Sound.names_output (hd : d.Sound) (suffix : String) (key : Key) {name : String}
    (h : d.lookup p = .ok (here ++ [name], .file content)) :
    ∃ kept, (∀ m ∈ kept, m ∈ names p) ∧
      names (Path.output p suffix key) = kept ++ outputNames name suffix key ∧
      d.walk (d.start (Path.output p suffix key)) kept = .ok here := by
  obtain ⟨before, here', name', hnames, hwalk, hname, hl⟩ := hd.names_of_file h
  obtain ⟨rfl, hlast⟩ := List.append_inj' hl rfl
  obtain rfl := (List.cons.inj hlast).1
  have hpieces : Text.pieces '/' p.toList = before.map String.toList ++ [name.toList] := by
    rw [pieces_toList, hnames, List.map_append]
    rfl
  have hhead := hname.head?_outputName_ne suffix.toList key
  obtain ⟨hfile, -⟩ := Path.parent?_of_pieces hpieces hname.isName (by simp)
  have hout := Path.toList_output hfile suffix key
  have hstart : d.start (Path.output p suffix key) = d.start p := by
    simp only [start, hout, Path.head?_withFileName_eq_slash_iff hpieces hname.isName hhead]
  obtain ⟨voids, hbefore, hvoids⟩ := Path.exists_voids (before.map String.toList)
  have hsplit : before = (Path.keptParts (before.map String.toList)).map String.ofList ++
      voids.map String.ofList := by
    rw [← List.map_append, ← hbefore]
    simp [Function.comp_def]
  refine ⟨(Path.keptParts (before.map String.toList)).map String.ofList, ?_, ?_, ?_⟩
  · intro m hm
    rw [hnames, hsplit]
    exact List.mem_append_left _ (List.mem_append_left _ hm)
  · rw [names, hout, Path.pieces_withFileName hpieces hname.isName (by simp) hhead,
      List.map_append, outputNames]
  · rw [hsplit, walk_append_eq_ok_iff] at hwalk
    obtain ⟨there, hkept, hrest⟩ := hwalk
    have hsame : here = there := by
      refine eq_of_walk_void ?_ hrest
      intro m hm
      obtain ⟨v, hv, rfl⟩ := List.mem_map.mp hm
      have hvoid := hvoids v hv
      simp only [Path.isVoid, Bool.or_eq_true, beq_iff_eq] at hvoid
      rcases hvoid with rfl | rfl
      · exact .inl rfl
      · exact .inr rfl
    rw [hstart, hsame]
    exact hkept

/-- The path of a transposition holds the character zero exactly if the suffix does. -/
theorem Sound.zero_mem_output_iff (hd : d.Sound) (suffix : String) (key : Key)
    (h : d.lookup p = .ok (l, .file content)) :
    '\x00' ∈ (Path.output p suffix key).toList ↔ '\x00' ∈ suffix.toList := by
  obtain ⟨_, here, name, _, _, hname, rfl⟩ := hd.names_of_file h
  obtain ⟨kept, hsub, hnames, -⟩ := hd.names_output suffix key h
  have hkept : ∀ m ∈ kept, '\x00' ∉ m.toList := fun m hm =>
    zero_not_mem_of_mem_names (expectName_of_expectPath
      (locate_eq_ok_iff.mp (lookup_eq_ok_iff.mp h).1).1) (hsub m hm)
  have hletter : '\x00' ≠ key.letter := by cases key <;> decide
  have zero_ne_slash : '\x00' ≠ '/' := by decide
  have houtput : Text.pieces '/' (Path.output p suffix key).toList = kept.map String.toList ++
      Text.pieces '/' (Path.outputName name.toList suffix.toList key) := by
    rw [pieces_toList, hnames, List.map_append, outputNames, List.map_map]
    simp
  rw [Text.mem_iff_exists_piece zero_ne_slash, houtput,
    ← Path.mem_outputName_iff hname.zero hletter, Text.mem_iff_exists_piece zero_ne_slash]
  constructor
  · rintro ⟨q, hq, hz⟩
    rcases List.mem_append.mp hq with hq | hq
    · obtain ⟨m, hm, rfl⟩ := List.mem_map.mp hq
      exact absurd hz (hkept m hm)
    · exact ⟨q, hq, hz⟩
  · rintro ⟨q, hq, hz⟩
    exact ⟨q, List.mem_append_right _ hq, hz⟩

/-- The transpositions of two spellings of a sheet can be asked for alike if neither path is too
long, or both are. -/
theorem Sound.expectPath_output_eq (hd : d.Sound) {suffix : String} {key : Key}
    {k : Location} {bytes : ByteArray}
    (hp : d.lookup p = .ok (l, .file content)) (hq : d.lookup q = .ok (k, .file bytes))
    (hshort : (Path.output p suffix key).utf8ByteSize < 4096 ↔
      (Path.output q suffix key).utf8ByteSize < 4096) :
    expectPath (Path.output p suffix key) = expectPath (Path.output q suffix key) := by
  have hzero : (Path.output p suffix key).toList.contains '\x00' =
      (Path.output q suffix key).toList.contains '\x00' := by
    rw [Bool.eq_iff_iff, List.contains_iff_mem, List.contains_iff_mem,
      hd.zero_mem_output_iff suffix key hp, hd.zero_mem_output_iff suffix key hq]
  simp only [expectPath, expectName, hzero, Path.output_ne_empty, ← Nat.not_lt, hshort]

/-- The transposition of a sheet that is named by its absolute path is named by its own, if there is
no slash in the suffix. -/
theorem output_path {name suffix : String} (h : ∀ n ∈ here ++ [name], ProperName n)
    (hsuffix : '/' ∉ suffix.toList) (key : Key) :
    Path.output (Location.path (here ++ [name])) suffix key = Location.path
      (here ++ [String.ofList (Path.outputName name.toList suffix.toList key)]) := by
  have hname := h name (by simp)
  have hpieces : Text.pieces '/' (Location.path (here ++ [name])).toList =
      ([] :: here.map String.toList) ++ [name.toList] := by
    rw [pieces_toList, names_path (by simp) h]
    simp
  have hkept : Path.keptParts ([] :: here.map String.toList) = [] :: here.map String.toList := by
    rw [Path.keptParts, List.rdropWhile_eq_self_iff.mpr]
    intro hne
    obtain ⟨n, hn, hlast⟩ := List.mem_map.mp (List.getLast_mem hne)
    rw [← hlast, (h n (List.mem_append_left _ hn)).isName.not_void]
    exact Bool.false_ne_true
  obtain ⟨hfile, -⟩ := Path.parent?_of_pieces hpieces hname.isName (by simp)
  have hout : Text.pieces '/' (Path.output (Location.path (here ++ [name])) suffix key).toList =
      [] :: (here.map String.toList ++ [Path.outputName name.toList suffix.toList key]) := by
    rw [Path.toList_output hfile, Path.pieces_withFileName hpieces hname.isName (by simp)
      (hname.head?_outputName_ne _ key), hkept, List.cons_append,
      Text.pieces_of_not_mem (Path.slash_not_mem_outputName hname.slash hsuffix key)]
  rw [← String.toList_inj, ← Text.join_pieces '/' (Path.output _ _ _).toList, hout, toList_path,
    List.map_append, List.map_singleton, String.toList_ofList]
  cases here <;> rfl

/-! ## Writing beside a file -/

/-- What the parent of a new thing is depends on where the names in front of it lead. -/
theorem parentAndName_eq {pre ms before : List String} {last : String}
    (hp : names p = pre ++ ms) (hms : ms.reverse.dropWhile (· = "") = last :: before)
    (hwalk : d.walk (d.start p) pre = .ok here) :
    d.parentAndName p = (do
      expectPath p
      let there ← d.walk here before.reverse
      d.expectDirectory there
      .ok (there, if last = "." || last = ".." then none else some last,
        decide (ms.reverse.head? = some ""))) := by
  have hdrop : (names p).reverse.dropWhile (· = "") = last :: (before ++ pre.reverse) := by
    rw [hp, List.reverse_append, List.dropWhile_append, hms]
    rfl
  have hslash : (names p).reverse.head? = ms.reverse.head? := by
    cases hr : ms.reverse with
    | nil => rw [hr] at hms; cases hms
    | cons m rest => rw [hp, List.reverse_append, hr]; rfl
  have hbefore : d.walk (d.start p) (before ++ pre.reverse).reverse =
      d.walk here before.reverse := by
    rw [List.reverse_append, List.reverse_reverse, walk_append, hwalk]
    rfl
  rw [parentAndName]
  simp only [hdrop, hslash, hbefore]

/-- Paths with the same end that go through one directory are written alike. -/
theorem write_congr {pre qre ms : List String} (hexpect : expectPath p = expectPath q)
    (hp : names p = pre ++ ms) (hq : names q = qre ++ ms) (hms : ∃ m ∈ ms, m ≠ "")
    (hwp : d.walk (d.start p) pre = .ok here) (hwq : d.walk (d.start q) qre = .ok here)
    (bytes : ByteArray) : d.write p bytes = d.write q bytes := by
  obtain ⟨last, before, hlast⟩ : ∃ last before,
      ms.reverse.dropWhile (· = "") = last :: before := by
    apply List.exists_cons_of_ne_nil
    intro hnil
    obtain ⟨m, hm, hne⟩ := hms
    have hvoid := List.dropWhile_eq_nil_iff.mp hnil m (List.mem_reverse.mpr hm)
    exact hne (of_decide_eq_true hvoid)
  have hparent : d.parentAndName p = d.parentAndName q := by
    rw [parentAndName_eq hp hlast hwp, parentAndName_eq hq hlast hwq, hexpect]
  rw [write, write, writeTarget, writeTarget, hparent]

/-- **Every spelling of a sheet has its transposition at one place.** -/
theorem Sound.write_output_eq (hd : d.Sound) {suffix : String} {key : Key}
    (hp : d.lookup p = .ok (l, .file content)) (hq : d.lookup q = .ok (l, .file content))
    (hshort : (Path.output p suffix key).utf8ByteSize < 4096 ↔
      (Path.output q suffix key).utf8ByteSize < 4096) (bytes : ByteArray) :
    d.write (Path.output p suffix key) bytes = d.write (Path.output q suffix key) bytes := by
  obtain ⟨_, here, name, _, _, hname, rfl⟩ := hd.names_of_file hp
  obtain ⟨pre, -, hpre, hwp⟩ := hd.names_output suffix key hp
  obtain ⟨qre, -, hqre, hwq⟩ := hd.names_output suffix key hq
  exact write_congr (hd.expectPath_output_eq hp hq hshort) hpre hqre
    (hname.exists_mem_outputNames suffix key) hwp hwq bytes

end Disk

end ChordSheet
