import ChordSheet.Text.Pieces

/-!
# Lines of a text

A line ends at a line feed, and one carriage return just before that line feed belongs to the
line break. Text after the last line feed is a line only if there is some, and a carriage
return anywhere else is part of its line. `unlines` ends every line, the last one too, with a
line feed.

* `dropReturn_eq_self`, `dropReturn_concat` : which carriage return belongs to a line break.
* `not_newline_mem_lines` : no line holds a line feed.
-/

set_option autoImplicit false

namespace ChordSheet.Text

/-- The line without the carriage return it ends in, if it ends in one. -/
def dropReturn : List Char → List Char
  | [] => []
  | [c] => if c = '\r' then [] else [c]
  | c :: cs => c :: dropReturn cs

/-- The lines of a text that was cut at its line feeds. -/
def linesOfPieces : List (List Char) → List (List Char)
  | [] => []
  | [rest] => if rest = [] then [] else [rest]
  | p :: ps => dropReturn p :: linesOfPieces ps

/-- The lines of a text, without their line breaks. -/
def lines (s : List Char) : List (List Char) := linesOfPieces (pieces '\n' s)

/-- The text that holds the given lines, each ended by a line feed. -/
def unlines (ls : List (List Char)) : List Char := ls.flatMap (· ++ ['\n'])

/-- The lines of a string. -/
def linesOf (content : String) : List String := (lines content.toList).map String.ofList

/-- The string that holds the given lines, each ended by a line feed. -/
def contentOf (ls : List String) : String := String.ofList (unlines (ls.map String.toList))

theorem mem_of_mem_dropReturn {x : Char} : ∀ {l : List Char}, x ∈ dropReturn l → x ∈ l
  | [], h => h
  | [c], h => by
    unfold dropReturn at h
    split at h
    · cases h
    · exact h
  | c :: d :: cs, h => by
    simp only [dropReturn, List.mem_cons] at h
    rcases h with rfl | h
    · simp
    · exact List.mem_cons_of_mem _ (mem_of_mem_dropReturn h)

theorem dropReturn_eq_self : ∀ {l : List Char}, l.getLast? ≠ some '\r' → dropReturn l = l
  | [], _ => rfl
  | [c], h => by
    rw [dropReturn, if_neg (by simpa using h)]
  | c :: d :: cs, h => by
    rw [dropReturn, dropReturn_eq_self (by simpa using h)]
    simp

theorem dropReturn_concat : ∀ l : List Char, dropReturn (l ++ ['\r']) = l
  | [] => rfl
  | [c] => rfl
  | c :: d :: cs => by
    have ih := dropReturn_concat (d :: cs)
    rw [List.cons_append] at ih
    rw [List.cons_append, List.cons_append, dropReturn, ih]
    simp

theorem not_sep_mem_pieces {sep : Char} :
    ∀ {s p : List Char}, p ∈ pieces sep s → sep ∉ p
  | [], p, h => by
    simp only [pieces, List.mem_singleton] at h
    subst h; simp
  | c :: cs, p, h => by
    unfold pieces at h
    split at h
    · rcases List.mem_cons.mp h with rfl | h
      · simp
      · exact not_sep_mem_pieces h
    · rename_i hc
      split at h
      · simp only [List.mem_singleton] at h
        subst h
        simpa using fun e => hc e.symm
      · rename_i q qs hq
        rcases List.mem_cons.mp h with rfl | h
        · have hq' : sep ∉ q := not_sep_mem_pieces (s := cs) (hq ▸ List.mem_cons_self)
          simp only [List.mem_cons, not_or]
          exact ⟨fun e => hc e.symm, hq'⟩
        · exact not_sep_mem_pieces (s := cs) (hq ▸ List.mem_cons_of_mem _ h)

theorem exists_piece_of_mem_linesOfPieces {l : List Char} :
    ∀ {ps : List (List Char)}, l ∈ linesOfPieces ps → ∃ p ∈ ps, ∀ x ∈ l, x ∈ p
  | [], h => by cases h
  | [r], h => by
    unfold linesOfPieces at h
    split at h
    · cases h
    · exact ⟨r, by simp, by simp_all⟩
  | p :: q :: ps, h => by
    simp only [linesOfPieces, List.mem_cons] at h
    rcases h with rfl | h
    · exact ⟨p, by simp, fun x hx => mem_of_mem_dropReturn hx⟩
    · obtain ⟨r, hr, hx⟩ := exists_piece_of_mem_linesOfPieces h
      exact ⟨r, List.mem_cons_of_mem _ hr, hx⟩

theorem not_newline_mem_lines {s l : List Char} (h : l ∈ lines s) : '\n' ∉ l := by
  obtain ⟨p, hp, hx⟩ := exists_piece_of_mem_linesOfPieces h
  exact fun hn => not_sep_mem_pieces hp (hx _ hn)

end ChordSheet.Text
