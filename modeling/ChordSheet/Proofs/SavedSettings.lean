import ChordSheet.Config
import ChordSheet.Proofs.Margins
import ChordSheet.Proofs.Spelling

/-!
# Settings that are read back

Settings are written as text and read from text. A suffix is *storable* if reading gives it back:
it is not empty, has no blanks at its ends and holds no line feed. Everything else may stand in it,
the signs with a meaning in the text of settings too. What was read from any text is storable, so
that settings which were read once are kept by writing and reading.

* `Text.lines_unlines` : lines that were written are read back.
* `Config.assigns_iff`, `Config.assignment?_append` : what a line assigns.
* `Config.storable_parse` : what is read is storable.
* `Config.parse_render_iff_storable` : exactly what is storable is read back.
-/

set_option autoImplicit false

namespace ChordSheet

/-! ## Lines -/

namespace Text

/-- The first line of a text stands before its first line feed. -/
theorem lines_append_cons {l : List Char} (h : '\n' ∉ l) (s : List Char) :
    lines (l ++ '\n' :: s) = dropReturn l :: lines s := by
  obtain ⟨p, ps, hp⟩ := List.exists_cons_of_ne_nil (pieces_ne_nil '\n' s)
  rw [lines, lines, pieces_append_cons s h, hp, linesOfPieces]
  simp

/-- Lines that were written are read back, each without the carriage return it ends in. -/
theorem lines_unlines {ls : List (List Char)} (h : ∀ l ∈ ls, '\n' ∉ l) :
    lines (unlines ls) = ls.map dropReturn := by
  induction ls with
  | nil => rfl
  | cons l ls ih =>
    have hcut : unlines (l :: ls) = l ++ '\n' :: unlines ls := by simp [unlines]
    rw [hcut, lines_append_cons (h l List.mem_cons_self),
      ih fun m hm => h m (List.mem_cons_of_mem _ hm), List.map_cons]

end Text

namespace Config

/-! ## Assignments -/

variable {name value line : List Char}

/-- A comment assigns nothing. -/
theorem assignment?_of_comment (h : (Text.trim line).head? = some '#') :
    assignment? line = none := by
  obtain ⟨s, hs⟩ := List.head?_eq_some_iff.mp h
  simp [assignment?, hs]

/-- A line that is no comment is cut at its first equals sign. -/
theorem assignment?_of_head (h : (Text.trim line).head? ≠ some '#') :
    assignment? line = (Text.cutFirst? (· == '=') (Text.trim line)).map
      fun (name, value) => (Text.trim name, Text.trim value) := by
  unfold assignment?
  split
  · rename_i hline
    rw [hline] at h
    exact absurd rfl h
  · rfl

/-- A line that assigns a value to a name: it is no comment, and its first equals sign stands
between the two, all without their margins. -/
structure Assigns (line name value : List Char) : Prop where
  head : (Text.trim line).head? ≠ some '#'
  cut : ∃ before after, Text.trim line = before ++ '=' :: after ∧ '=' ∉ before ∧
    Text.trim before = name ∧ Text.trim after = value

theorem assigns_iff : Assigns line name value ↔ assignment? line = some (name, value) := by
  constructor
  · rintro ⟨hhead, before, after, hline, hbefore, rfl, rfl⟩
    rw [assignment?_of_head hhead, hline, Text.cutFirst?_append_cons after hbefore]
    rfl
  · intro h
    have hhead : (Text.trim line).head? ≠ some '#' := by
      intro hcomment
      rw [assignment?_of_comment hcomment] at h
      cases h
    rw [assignment?_of_head hhead] at h
    obtain ⟨⟨before, after⟩, hcut, heq⟩ := Option.map_eq_some_iff.mp h
    obtain ⟨rfl, rfl⟩ := Prod.mk.inj heq
    obtain ⟨c, hc, hbefore, hline⟩ := Text.append_of_cutFirst? hcut
    obtain rfl : c = '=' := by simpa using hc
    exact ⟨hhead, before, after, hline, fun hmem => absurd (hbefore _ hmem) (by simp), rfl, rfl⟩

/-- A line that consists of a name, an equals sign and a value assigns the value to the name. -/
theorem assignment?_append (hne : name ≠ []) (hname : Text.Trimmed name)
    (hsign : '=' ∉ name) (hhash : name.head? ≠ some '#') (hvalue : Text.Trimmed value) :
    assignment? (name ++ '=' :: value) = some (name, value) := by
  have htrim : Text.trim (name ++ '=' :: value) = name ++ '=' :: value := by
    cases value with
    | nil =>
      have hequals : Text.Trimmed ['='] := by decide
      simpa using (hname.append hequals hne (List.cons_ne_nil _ _) []).trim_eq
    | cons c cs => simpa using (hname.append hvalue hne (List.cons_ne_nil _ _) ['=']).trim_eq
  obtain ⟨c, cs, rfl⟩ := List.exists_cons_of_ne_nil hne
  have hfirst : (Text.trim (c :: cs ++ '=' :: value)).head? ≠ some '#' := by
    rw [htrim]
    exact hhash
  exact assigns_iff.mp ⟨hfirst, _, _, htrim, hsign, hname.trim_eq, hvalue.trim_eq⟩

/-- A value that a line assigns has no margins, and its characters are those of the line. -/
theorem value_of_assignment? (h : assignment? line = some (name, value)) :
    Text.Trimmed value ∧ ∀ c ∈ value, c ∈ line := by
  obtain ⟨-, before, after, hline, -, -, rfl⟩ := assigns_iff.mpr h
  refine ⟨Text.trimmed_trim after, fun c hc => Text.mem_of_mem_trim ?_⟩
  rw [hline]
  exact List.mem_append_right _ (List.mem_cons_of_mem _ (Text.mem_of_mem_trim hc))

/-! ## Storable settings -/

/-- Settings that are read back after they were written. -/
structure Storable (c : Config) : Prop where
  ne_empty : c.outputSuffix ≠ ""
  trimmed : Text.Trimmed c.outputSuffix.toList
  newline : '\n' ∉ c.outputSuffix.toList

theorem storable_standard : standard.Storable :=
  ⟨by decide, by decide, by decide⟩

theorem Storable.assign {c : Config} (h : c.Storable) (name : List Char) {value : List Char}
    (hvalue : Text.Trimmed value) (hnewline : '\n' ∉ value) : (c.assign name value).Storable := by
  unfold Config.assign
  split
  · exact ⟨h.ne_empty, h.trimmed, h.newline⟩
  · split
    · split
      · exact h
      · rename_i hne
        refine ⟨?_, by rwa [String.toList_ofList], by rwa [String.toList_ofList]⟩
        intro he
        exact hne (by simpa using congrArg String.toList he)
    · exact h

theorem Storable.readLine {c : Config} (h : c.Storable) {line : List Char}
    (hline : '\n' ∉ line) : (c.readLine line).Storable := by
  unfold Config.readLine
  split
  · rename_i name value hassign
    obtain ⟨hvalue, hmem⟩ := value_of_assignment? hassign
    exact h.assign name hvalue fun hc => hline (hmem _ hc)
  · exact h

theorem Storable.foldl_readLine {ls : List (List Char)} (hls : ∀ l ∈ ls, '\n' ∉ l) {c : Config}
    (h : c.Storable) : (ls.foldl Config.readLine c).Storable := by
  induction ls generalizing c with
  | nil => exact h
  | cons l ls ih =>
    exact ih (fun m hm => hls m (List.mem_cons_of_mem _ hm)) (h.readLine (hls l List.mem_cons_self))

/-- **What is read is storable.** -/
theorem storable_parse (content : String) : (parse content).Storable :=
  storable_standard.foldl_readLine fun _ hl => Text.not_newline_mem_lines hl

theorem Storable.withDefaultKey {c : Config} (h : c.Storable) (k : Option Key) :
    Storable { c with defaultKey := k } :=
  ⟨h.ne_empty, h.trimmed, h.newline⟩

/-! ## Written settings -/

theorem readLine_comment (c : Config) :
    c.readLine "# Chordshift configuration".toList = c := by
  have hnone : assignment? "# Chordshift configuration".toList = none := by decide
  rw [readLine, hnone]

theorem readLine_defaultKey (c : Config) (k : Key) :
    c.readLine ("default_key=" ++ k.name).toList = { c with defaultKey := some k } := by
  have hassign : assignment? ("default_key=" ++ k.name).toList =
      some ("default_key".toList, k.name.toList) := by
    cases k <;> decide
  rw [readLine, hassign]
  simp [assign, Key.parse_letter, Except.toOption]

theorem readLine_outputSuffix {c d : Config} (h : d.Storable) :
    c.readLine ("output_suffix=" ++ d.outputSuffix).toList =
      { c with outputSuffix := d.outputSuffix } := by
  have hassign : assignment? ("output_suffix=" ++ d.outputSuffix).toList =
      some ("output_suffix".toList, d.outputSuffix.toList) := by
    have hequals : "output_suffix=".toList = "output_suffix".toList ++ ['='] := by decide
    have hne : "output_suffix".toList ≠ [] := by decide
    rw [String.toList_append, hequals, List.append_assoc, List.singleton_append]
    exact assignment?_append hne (by decide) (by decide) (by decide) h.trimmed
  have hne : d.outputSuffix.toList ≠ [] := by simpa using h.ne_empty
  rw [readLine, hassign]
  simp [assign, hne]

/-- Settings that can be stored are not broken into lines, and no line loses its end. -/
theorem Storable.settingLines {c : Config} (h : c.Storable) :
    ∀ l ∈ c.settingLines.map String.toList, '\n' ∉ l ∧ l.getLast? ≠ some '\r' := by
  intro l hl
  simp only [Config.settingLines, List.map_cons, List.map_append, List.mem_cons, List.mem_append,
    List.map_nil, List.not_mem_nil, or_false] at hl
  rcases hl with rfl | hl | rfl
  · decide
  · obtain ⟨s, hs, rfl⟩ := List.mem_map.mp hl
    obtain ⟨k, -, rfl⟩ := Option.map_eq_some_iff.mp (Option.mem_toList.mp hs)
    cases k <;> decide
  · have hne : c.outputSuffix.toList ≠ [] := by simpa using h.ne_empty
    rw [String.toList_append, List.getLast?_append_of_ne_nil _ hne, List.mem_append, not_or]
    exact ⟨⟨by decide, h.newline⟩, fun hlast => absurd (h.trimmed.last _ hlast) (by decide)⟩

theorem Storable.lines_render {c : Config} (h : c.Storable) :
    Text.lines c.render.toList = c.settingLines.map String.toList := by
  have hlines := h.settingLines
  rw [render, Text.contentOf, String.toList_ofList, Text.lines_unlines fun l hl => (hlines l hl).1]
  exact (List.map_congr_left fun l hl => Text.dropReturn_eq_self (hlines l hl).2).trans
    (List.map_id _)

/-- What can be stored is read back. -/
theorem Storable.parse_render {c : Config} (h : c.Storable) : parse c.render = c := by
  obtain ⟨key, suffix⟩ := c
  rw [parse, h.lines_render]
  cases key with
  | none =>
    simp only [Config.settingLines, Option.map_none, Option.toList_none, List.nil_append,
      List.map_cons, List.map_nil, List.foldl_cons, List.foldl_nil, readLine_comment,
      readLine_outputSuffix h]
    rfl
  | some k =>
    simp only [Config.settingLines, Option.map_some, Option.toList_some, List.cons_append,
      List.nil_append, List.map_cons, List.map_nil, List.foldl_cons, List.foldl_nil,
      readLine_comment, readLine_defaultKey, readLine_outputSuffix h]

/-- **Exactly what is storable is read back**, and so is everything that was read. -/
theorem parse_render_iff_storable :
    (∀ c : Config, parse c.render = c ↔ c.Storable) ∧
    (∀ content : String, (parse content).Storable) ∧
    ∀ content : String, parse (parse content).render = parse content := by
  refine ⟨fun c => ⟨fun h => ?_, Storable.parse_render⟩, storable_parse, fun content => ?_⟩
  · exact h ▸ storable_parse c.render
  · exact (storable_parse content).parse_render

example : parse (render ⟨some .A, "=#\rdefault_key=B"⟩) = ⟨some .A, "=#\rdefault_key=B"⟩ := by
  decide +kernel

end Config

end ChordSheet
