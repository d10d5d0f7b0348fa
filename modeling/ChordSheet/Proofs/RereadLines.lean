import ChordSheet.Proofs.SavedSettings
import ChordSheet.Proofs.SheetFiles

/-!
# Lines that are written and read back

Lines are written with a line feed each, and a carriage return just before a line feed belongs to
the line break when they are read. So a line that was written comes back without the carriage
return it ended in, if it ended in one, and a line that holds a line feed comes back in pieces. What
was read from a file holds no line feed: written and read once more, it gives as many lines, each
of which has lost one carriage return at most.

* `Text.linesOf_contentOf` : lines without line feeds lose a carriage return at most.
* `Text.linesOf_contentOf_eq_iff` : the lines that are read back.
* `SheetFile.run_readLines_eq_ok_iff` : what the lines of a file are.
* `SheetFile.reread_lines` : lines in a file, written and read back.
-/

set_option autoImplicit false

namespace ChordSheet

/-! ## Lines of a text -/

namespace Text

theorem dropReturn_eq_self_iff {l : List Char} : dropReturn l = l ↔ l.getLast? ≠ some '\r' := by
  refine ⟨fun h hlast => ?_, dropReturn_eq_self⟩
  obtain ⟨q, rfl⟩ := List.getLast?_eq_some_iff.mp hlast
  rw [dropReturn_concat] at h
  simpa using congrArg List.length h

/-- What a line comes back as that holds no line feed: the line itself, or the line without the
carriage return it ended in. -/
structure ReadBack (l m : String) : Prop where
  kept : l.toList.getLast? ≠ some '\r' → m = l
  lost : l.toList.getLast? = some '\r' → l = m ++ "\r"

theorem readBack_dropReturn (l : String) : ReadBack l (String.ofList (dropReturn l.toList)) := by
  constructor
  · intro h
    rw [dropReturn_eq_self h, String.ofList_toList]
  · intro h
    obtain ⟨q, hq⟩ := List.getLast?_eq_some_iff.mp h
    rw [hq, dropReturn_concat, ← String.toList_inj, hq]
    simp

/-- **Lines without line feeds lose a carriage return at most.** -/
theorem linesOf_contentOf {ls : List String} (h : ∀ l ∈ ls, '\n' ∉ l.toList) :
    linesOf (contentOf ls) = ls.map fun l => String.ofList (dropReturn l.toList) := by
  have hlines : ∀ l ∈ ls.map String.toList, '\n' ∉ l := by
    intro l hl
    obtain ⟨s, hs, rfl⟩ := List.mem_map.mp hl
    exact h s hs
  rw [linesOf, contentOf, String.toList_ofList, lines_unlines hlines, List.map_map, List.map_map]
  rfl

/-- **The lines that are read back:** those without line feeds and without a carriage return at the
end. -/
theorem linesOf_contentOf_eq_iff {ls : List String} :
    linesOf (contentOf ls) = ls ↔
      ∀ l ∈ ls, '\n' ∉ l.toList ∧ l.toList.getLast? ≠ some '\r' := by
  constructor
  · intro h
    have hnewline : ∀ l ∈ ls, '\n' ∉ l.toList := fun l hl => not_newline_mem_linesOf (h ▸ hl)
    rw [linesOf_contentOf hnewline] at h
    have hsame := List.map_inj_left.mp (h.trans (List.map_id ls).symm)
    intro l hl
    refine ⟨hnewline l hl, dropReturn_eq_self_iff.mp ?_⟩
    rw [← String.toList_ofList (l := dropReturn l.toList), hsame l hl]
    rfl
  · intro h
    rw [linesOf_contentOf fun l hl => (h l hl).1]
    refine (List.map_congr_left fun l hl => ?_).trans (List.map_id ls)
    rw [dropReturn_eq_self (h l hl).2, String.ofList_toList]
    rfl

end Text

/-! ## Lines of a file -/

namespace SheetFile

open FileView Text

variable {σ : Type} [FileSystem (StateM σ)] [FileView σ] [LawfulFiles σ] {p : Path}
  {ls : List String} {s after : σ}

/-- The lines of a file are those of the text that it holds. -/
theorem run_readLines_eq_ok_iff :
    (readLines p : StateM σ (Except FileError (List String))).run s = (.ok ls, after) ↔
      after = s ∧ ∃ content : String, Holds s p content.toUTF8 ∧ ls = linesOf content := by
  constructor
  · intro h
    obtain ⟨result, hrun, hholds⟩ := run_readLines p s
    rw [hrun] at h
    obtain ⟨rfl, rfl⟩ := Prod.mk.inj h
    exact ⟨rfl, hholds ls rfl⟩
  · rintro ⟨rfl, content, hholds, rfl⟩
    exact run_readLines_of_holds hholds

theorem holds_of_run_writeLines
    (h : (writeLines p ls : StateM σ (Except FileError Unit)).run s = (.ok (), after)) :
    Holds after p (contentOf ls).toUTF8 := by
  obtain ⟨result, written, hrun, -, hholds⟩ := run_writeLines p ls s
  rw [hrun] at h
  cases h
  exact hholds rfl

/-- What was written is read back without a change of the file. -/
theorem run_readLines_of_run_writeLines
    (h : (writeLines p ls : StateM σ (Except FileError Unit)).run s = (.ok (), after)) :
    (readLines p : StateM σ (Except FileError (List String))).run after =
      (.ok (linesOf (contentOf ls)), after) :=
  run_readLines_of_holds (holds_of_run_writeLines h)

/-- **Lines in a file, written and read back.** A file to which some lines were written is read as
these lines exactly if none of them holds a line feed or ends in a carriage return. A file has lines
exactly if it holds a text, and they are those of the text. None of them holds a line feed, and
wherever they are written and read once more, there are as many of them, each the same or without
the carriage return it ended in. -/
theorem reread_lines :
    (∀ (p : Path) (ls : List String) (s after : σ),
      (writeLines p ls : StateM σ (Except FileError Unit)).run s = (.ok (), after) →
        ((readLines p : StateM σ (Except FileError (List String))).run after = (.ok ls, after) ↔
          ∀ l ∈ ls, '\n' ∉ l.toList ∧ l.toList.getLast? ≠ some '\r')) ∧
    (∀ (p : Path) (ls : List String) (s after : σ),
      (readLines p : StateM σ (Except FileError (List String))).run s = (.ok ls, after) ↔
        after = s ∧ ∃ content : String, Holds s p content.toUTF8 ∧ ls = linesOf content) ∧
    ∀ (p : Path) (ls : List String) (s after : σ),
      (readLines p : StateM σ (Except FileError (List String))).run s = (.ok ls, after) →
        (∀ l ∈ ls, '\n' ∉ l.toList) ∧
        ∀ (q : Path) (t written : σ),
          (writeLines q ls : StateM σ (Except FileError Unit)).run t = (.ok (), written) →
            ∃ again, (readLines q : StateM σ (Except FileError (List String))).run written =
                (.ok again, written) ∧
              again.length = ls.length ∧ List.Forall₂ ReadBack ls again := by
  refine ⟨?_, fun p ls s after => run_readLines_eq_ok_iff, ?_⟩
  · intro p ls s after h
    rw [run_readLines_of_run_writeLines h, ← linesOf_contentOf_eq_iff, Prod.mk.injEq,
      Except.ok.injEq, and_iff_left rfl]
  · intro p ls s after h
    obtain ⟨-, content, -, rfl⟩ := run_readLines_eq_ok_iff.mp h
    refine ⟨fun l => not_newline_mem_linesOf, fun q t written hwrite => ?_⟩
    refine ⟨_, run_readLines_of_run_writeLines hwrite, ?_⟩
    rw [linesOf_contentOf fun l => not_newline_mem_linesOf, List.length_map]
    refine ⟨rfl, List.forall₂_map_right_iff.mpr (List.forall₂_same.mpr fun l _ => ?_)⟩
    exact readBack_dropReturn l

theorem reread_lines_returns :
    let content := "C/G\r\r\n\nla\r"
    let host : Host := ⟨⟨[(["song.txt"], .file content.toUTF8)], []⟩, []⟩
    let ls := ["C/G\r", "", "la\r"]
    (readLines "song.txt" : StateM Host (Except FileError (List String))).run host =
        (.ok ls, host) ∧
      ∃ written, (writeLines "copy.txt" ls : StateM Host (Except FileError Unit)).run host =
          (.ok (), written) ∧
        (readLines "copy.txt" : StateM Host (Except FileError (List String))).run written ≠
          (.ok ls, written) ∧
        ∃ again, (readLines "copy.txt" : StateM Host (Except FileError (List String))).run written =
            (.ok again, written) ∧
          again.length = 3 ∧ List.Forall₂ ReadBack ls again := by
  intro content host ls
  obtain ⟨hexact, hlines, hagain⟩ := @reread_lines Host _ _ _
  have hread : (readLines "song.txt" : StateM Host (Except FileError (List String))).run host =
      (.ok ls, host) := by
    refine (hlines _ _ _ _).mpr ⟨rfl, content, Host.holds_iff.mpr rfl, ?_⟩
    decide +kernel
  have hresult : ((writeLines "copy.txt" ls : StateM Host (Except FileError Unit)).run host).1 =
      .ok () := by decide +kernel
  obtain ⟨written, hwrite⟩ : ∃ written,
      (writeLines "copy.txt" ls : StateM Host (Except FileError Unit)).run host =
        (.ok (), written) := ⟨_, Prod.ext hresult rfl⟩
  refine ⟨hread, written, hwrite, ?_, (hagain _ _ _ _ hread).2 _ _ _ hwrite⟩
  rw [Ne, hexact _ _ _ _ hwrite]
  decide

end SheetFile

end ChordSheet
