import Mathlib.Data.List.DropRight
import ChordSheet.Path
import ChordSheet.Proofs.Walking

/-!
# The parts of a path

A path with a file name consists of the parts in front of the name, the name, and void parts behind
it. The path of its directory has the parts in front, void ones at the end apart; the first part
stays in any case, since it tells where the path starts. A name goes on from there.

* `Path.exists_pieces_of_fileName?` : the parts of a path with a file name.
* `Path.parent?_of_pieces` : the name and the directory of a path with these parts.
* `Path.pieces_withFileName` : the parts of the path beside a path.
* `Path.parent?_withFileName` : a path beside a path is in the same directory.
-/

set_option autoImplicit false

namespace ChordSheet

/-! ## Joined parts -/

namespace Text

theorem pieces_join_append {sep : Char} {ps : List (List Char)} (s : List Char) (hne : ps ≠ [])
    (h : ∀ p ∈ ps, sep ∉ p) : pieces sep (join sep ps ++ sep :: s) = ps ++ pieces sep s := by
  induction ps with
  | nil => exact absurd rfl hne
  | cons p ps ih =>
    have hp := h p List.mem_cons_self
    cases ps with
    | nil => exact pieces_append_cons s hp
    | cons q qs =>
      rw [join_cons_cons, List.append_assoc, List.cons_append, pieces_append_cons _ hp,
        ih (List.cons_ne_nil _ _) fun r hr => h r (List.mem_cons_of_mem _ hr)]
      rfl

/-- A text that is cut at one more place has the pieces on both sides of it. -/
theorem pieces_append_sep (sep : Char) (a b : List Char) :
    pieces sep (a ++ sep :: b) = pieces sep a ++ pieces sep b := by
  rw [← pieces_join_append b (pieces_ne_nil sep a) fun _ hp => not_sep_mem_pieces hp, join_pieces]

theorem getLast?_join_concat {sep x : Char} (ps : List (List Char)) {p : List Char}
    (hp : p.getLast? = some x) : (join sep (ps ++ [p])).getLast? = some x := by
  induction ps with
  | nil => exact hp
  | cons q qs ih =>
    obtain ⟨r, rs, hr⟩ := List.exists_cons_of_ne_nil (List.append_ne_nil_of_right_ne_nil qs
      (List.cons_ne_nil p []))
    rw [List.cons_append, hr, join_cons_cons, ← hr]
    simp [List.getLast?_append, List.getLast?_cons, ih]

/-- A text starts with a separator if and only if an empty piece stands before others. -/
theorem head?_eq_sep_iff {sep : Char} {s : List Char} :
    s.head? = some sep ↔ ∃ q qs, pieces sep s = [] :: q :: qs := by
  cases s with
  | nil => simp [pieces]
  | cons c cs =>
    obtain ⟨q, qs, hq⟩ := List.exists_cons_of_ne_nil (pieces_ne_nil sep cs)
    by_cases hc : c = sep
    · simp [pieces, hc, hq]
    · simp [pieces, hc, hq]

end Text

namespace Path

open Text

variable {p name new : List Char} {before voids : List (List Char)}

/-! ## Names and directories -/

/-- A part that is the name of a file if nothing but void parts follows. -/
structure IsName (name : List Char) : Prop where
  not_void : isVoid name = false
  ne_dots : name ≠ ['.', '.']

theorem isName_of_fileName? (h : fileName? p = some name) : IsName name :=
  ⟨(fileName?_ne_dots h).1, (fileName?_ne_dots h).2⟩

/-- What is left of the parts in front of a file name: void parts at the end are left out, but for
the first part. -/
def keptParts : List (List Char) → List (List Char)
  | [] => []
  | first :: rest => first :: rest.rdropWhile isVoid

/-- The path of a directory whose parts are kept. -/
def directory (kept : List (List Char)) : List Char :=
  if kept = [[]] then ['/'] else join '/' kept

theorem exists_voids (before : List (List Char)) :
    ∃ voids, before = keptParts before ++ voids ∧ ∀ v ∈ voids, isVoid v = true := by
  cases before with
  | nil => exact ⟨[], rfl, by simp⟩
  | cons first rest =>
    refine ⟨rest.rtakeWhile isVoid, ?_, fun v hv => List.mem_rtakeWhile_imp hv⟩
    rw [keptParts, List.cons_append, List.rdropWhile_append_rtakeWhile]

theorem keptParts_keptParts (before : List (List Char)) :
    keptParts (keptParts before) = keptParts before := by
  cases before with
  | nil => rfl
  | cons first rest => rw [keptParts, keptParts, List.rdropWhile_idempotent]

theorem parts_of_anchor {a body : List Char} (ha : anchor p = (a, body))
    (hbody : pieces '/' body = before ++ name :: voids) (hname : IsName name)
    (hvoids : ∀ v ∈ voids, isVoid v = true) :
    fileName? p = some name ∧ parent? p = some (a ++ join '/' (before.rdropWhile isVoid)) := by
  have hdrop : (before ++ name :: voids).reverse.dropWhile isVoid = name :: before.reverse := by
    rw [List.reverse_append, List.reverse_cons, List.append_assoc,
      List.dropWhile_append_of_pos fun v hv => hvoids v (List.mem_reverse.mp hv)]
    simp [hname.not_void]
  have hparts : parts p = (a, name :: before.reverse) := by simp only [parts, ha, hbody, hdrop]
  refine ⟨by simp [fileName?, hparts, hname.ne_dots], ?_⟩
  rw [parent?, hparts]
  rfl

/-- **The name and the directory of a path.** -/
theorem parent?_of_pieces (h : pieces '/' p = before ++ name :: voids) (hname : IsName name)
    (hvoids : ∀ v ∈ voids, isVoid v = true) :
    fileName? p = some name ∧ parent? p = some (directory (keptParts before)) := by
  fun_cases anchor p with
  | case1 cs =>
    rw [pieces, if_pos rfl] at h
    cases before with
    | nil =>
      obtain ⟨rfl, -⟩ := List.cons.inj h
      cases hname.not_void
    | cons first rest =>
      obtain ⟨rfl, hcs⟩ := List.cons.inj h
      obtain ⟨hfile, hparent⟩ := parts_of_anchor (p := '/' :: cs) rfl hcs hname hvoids
      refine ⟨hfile, hparent.trans ?_⟩
      cases hkept : rest.rdropWhile isVoid <;> simp [keptParts, directory, hkept, join]
  | case2 =>
    cases before with
    | nil =>
      obtain ⟨rfl, -⟩ := List.cons.inj (show ['.'] :: [] = name :: voids from h)
      cases hname.not_void
    | cons first rest =>
      have hrest := (List.cons.inj (show ['.'] :: [] = first :: (rest ++ name :: voids) from h)).2
      exact absurd hrest.symm (List.append_ne_nil_of_right_ne_nil rest (List.cons_ne_nil _ _))
  | case3 cs =>
    have hcut : pieces '/' ('.' :: '/' :: cs) = ['.'] :: pieces '/' cs :=
      pieces_append_cons (a := ['.']) cs (by decide)
    rw [hcut] at h
    cases before with
    | nil =>
      obtain ⟨rfl, -⟩ := List.cons.inj h
      cases hname.not_void
    | cons first rest =>
      obtain ⟨rfl, hcs⟩ := List.cons.inj h
      have hbody : pieces '/' ('/' :: cs) = ([] :: rest) ++ name :: voids := by
        rw [pieces, if_pos rfl, hcs]
        rfl
      obtain ⟨hfile, hparent⟩ := parts_of_anchor (p := '.' :: '/' :: cs) rfl hbody hname hvoids
      refine ⟨hfile, hparent.trans ?_⟩
      -- the empty part behind the dot is void, and is left out if nothing is kept after it
      have hkept : ([] :: rest).rdropWhile isVoid =
          if rest.rdropWhile isVoid = [] then [] else [] :: rest.rdropWhile isVoid := by
        rw [List.rdropWhile, List.reverse_cons, List.dropWhile_append]
        simp only [List.rdropWhile, List.isEmpty_iff, List.reverse_eq_nil_iff]
        split <;> simp [isVoid]
      rw [hkept]
      cases hdropped : rest.rdropWhile isVoid <;> simp [keptParts, directory, hdropped, join]
  | case4 =>
    rename_i hroot hdot hhere
    have ha : anchor p = ([], p) := by rw [anchor] <;> assumption
    obtain ⟨hfile, hparent⟩ := parts_of_anchor ha h hname hvoids
    refine ⟨hfile, hparent.trans ?_⟩
    cases before with
    | nil => rfl
    | cons first rest =>
      obtain ⟨q, qs, hq⟩ := List.exists_cons_of_ne_nil
        (List.append_ne_nil_of_right_ne_nil rest (List.cons_ne_nil name voids))
      have hp : first ++ '/' :: join '/' (q :: qs) = p := by
        rw [← join_pieces '/' p, h, List.cons_append, hq, join_cons_cons]
      have hfirst : isVoid first = false := by
        simp only [isVoid, Bool.or_eq_false_iff, beq_eq_false_iff_ne]
        refine ⟨?_, ?_⟩
        · rintro rfl
          exact hroot _ hp.symm
        · rintro rfl
          exact hhere _ hp.symm
      have hne : first ≠ [] := by
        rintro rfl
        cases hfirst
      have hkept : (first :: rest).rdropWhile isVoid = first :: rest.rdropWhile isVoid := by
        rw [List.rdropWhile, List.reverse_cons, List.dropWhile_append]
        simp only [List.rdropWhile, List.isEmpty_iff]
        split <;> simp_all
      rw [hkept, directory, keptParts, if_neg (by simp [hne])]
      rfl

/-- **The parts of a path with a file name.** -/
theorem exists_pieces_of_fileName? (h : fileName? p = some name) :
    ∃ before voids, pieces '/' p = before ++ name :: voids ∧ ∀ v ∈ voids, isVoid v = true := by
  have hname := isName_of_fileName? h
  obtain ⟨rest, hrest⟩ : ∃ rest, (parts p).2 = name :: rest := by
    unfold fileName? at h
    split at h
    · cases h
    · rename_i last rest hparts
      split at h
      · cases h
      · cases h
        exact ⟨rest, hparts⟩
  have hbody : ∀ a body, anchor p = (a, body) → ∃ voids,
      pieces '/' body = rest.reverse ++ name :: voids ∧ ∀ v ∈ voids, isVoid v = true := by
    intro a body ha
    have hdrop : (pieces '/' body).reverse.dropWhile isVoid = name :: rest := by
      rw [← hrest, parts, ha]
    refine ⟨(pieces '/' body).rtakeWhile isVoid, ?_, fun v hv => List.mem_rtakeWhile_imp hv⟩
    have hsplit := @List.rdropWhile_append_rtakeWhile _ isVoid (pieces '/' body)
    rw [List.rdropWhile, hdrop, List.reverse_cons, List.append_assoc] at hsplit
    exact hsplit.symm
  fun_cases anchor p with
  | case1 cs =>
    obtain ⟨voids, hcs, hvoids⟩ := hbody _ _ rfl
    exact ⟨[] :: rest.reverse, voids, by rw [pieces, if_pos rfl, hcs, List.cons_append], hvoids⟩
  | case2 => cases h
  | case3 cs =>
    obtain ⟨voids, hcs, hvoids⟩ := hbody _ _ rfl
    have hcut : pieces '/' ('.' :: '/' :: cs) = ['.'] :: pieces '/' cs :=
      pieces_append_cons (a := ['.']) cs (by decide)
    rw [pieces, if_pos rfl] at hcs
    cases hr : rest.reverse with
    | nil =>
      rw [hr] at hcs
      obtain ⟨rfl, -⟩ := List.cons.inj hcs
      cases hname.not_void
    | cons first more =>
      rw [hr] at hcs
      refine ⟨['.'] :: more, voids, ?_, hvoids⟩
      rw [hcut, (List.cons.inj hcs).2]
      rfl
  | case4 =>
    rename_i hroot hdot hhere
    obtain ⟨voids, hp, hvoids⟩ := hbody [] p (by rw [anchor] <;> assumption)
    exact ⟨_, voids, hp, hvoids⟩

/-! ## Paths beside a path -/

/-- A row of parts that ends in a part that is not empty does not end in a slash. -/
theorem exists_getLast?_join (ps : List (List Char)) (hp : p ≠ []) (hslash : '/' ∉ p) :
    ∃ x, (join '/' (ps ++ [p])).getLast? = some x ∧ x ≠ '/' := by
  cases hx : p.getLast? with
  | none => exact absurd (List.getLast?_eq_none_iff.mp hx) hp
  | some x =>
    refine ⟨x, getLast?_join_concat ps hx, ?_⟩
    rintro rfl
    exact hslash (List.mem_of_getLast? hx)

/-- A name goes on from the parts in front of it. -/
theorem pieces_append_join {kept : List (List Char)} (hslash : ∀ q ∈ kept, '/' ∉ q)
    (hlast : kept.getLast? ≠ some []) (hnew : new.head? ≠ some '/') :
    pieces '/' (append (join '/' kept) new) = kept ++ pieces '/' new := by
  rcases List.eq_nil_or_concat kept with rfl | ⟨ps, q, rfl⟩
  · simp [append, join, hnew]
  · rw [List.concat_eq_append] at hslash hlast ⊢
    obtain ⟨x, hx, hne⟩ :=
      exists_getLast?_join ps (p := q) (by simpa using hlast) (hslash q (by simp))
    have hnil : join '/' (ps ++ [q]) ≠ [] := by
      intro he
      rw [he] at hx
      cases hx
    rw [append, if_neg hnew, if_neg (by simp [hnil, hx, hne]),
      pieces_join_append new (by simp) hslash]

/-- A name goes on from the directory in front of it. -/
theorem pieces_append_directory (hslash : ∀ q ∈ before, '/' ∉ q) (hnew : new.head? ≠ some '/') :
    pieces '/' (append (directory (keptParts before)) new) =
      keptParts before ++ pieces '/' new := by
  by_cases hroot : keptParts before = [[]]
  · simp [hroot, directory, append, hnew, pieces]
  · obtain ⟨voids, hbefore, -⟩ := exists_voids before
    rw [directory, if_neg hroot]
    refine pieces_append_join (fun q hq => hslash q ?_) ?_ hnew
    · rw [hbefore]
      exact List.mem_append_left voids hq
    · cases before with
      | nil => simp [keptParts]
      | cons first rest =>
        rw [keptParts] at hroot ⊢
        cases hrest : rest.rdropWhile isVoid with
        | nil =>
          rw [hrest] at hroot
          simpa using hroot
        | cons r rs =>
          have hlast := List.rdropWhile_last_not isVoid rest (by simp [hrest])
          rw [List.getLast?_cons_cons]
          intro he
          simp only [hrest] at hlast
          rw [List.getLast?_eq_some_getLast (List.cons_ne_nil r rs), Option.some.injEq] at he
          rw [he] at hlast
          exact hlast rfl

theorem withFileName_of_pieces (h : pieces '/' p = before ++ name :: voids) (hname : IsName name)
    (hvoids : ∀ v ∈ voids, isVoid v = true) (new : List Char) :
    withFileName p new = append (directory (keptParts before)) new := by
  obtain ⟨hfile, hparent⟩ := parent?_of_pieces h hname hvoids
  rw [withFileName, hfile, hparent]
  rfl

/-- **The path beside a path keeps the parts in front of the file name**, void ones at the end
apart. -/
theorem pieces_withFileName (h : pieces '/' p = before ++ name :: voids) (hname : IsName name)
    (hvoids : ∀ v ∈ voids, isVoid v = true) (hnew : new.head? ≠ some '/') :
    pieces '/' (withFileName p new) = keptParts before ++ pieces '/' new := by
  rw [withFileName_of_pieces h hname hvoids]
  refine pieces_append_directory (fun q hq => not_sep_mem_pieces (s := p) ?_) hnew
  rw [h]
  exact List.mem_append_left _ hq

/-- **A path beside a path is in the same directory**, under the new name. -/
theorem parent?_withFileName (h : fileName? p = some name) (hnew : IsName new)
    (hslash : '/' ∉ new) :
    fileName? (withFileName p new) = some new ∧ parent? (withFileName p new) = parent? p := by
  obtain ⟨before, voids, hp, hvoids⟩ := exists_pieces_of_fileName? h
  have hname := isName_of_fileName? h
  have hhead : new.head? ≠ some '/' := fun he => hslash (List.mem_of_head? he)
  have hpieces := pieces_withFileName hp hname hvoids hhead
  rw [pieces_of_not_mem hslash] at hpieces
  obtain ⟨hfile, hparent⟩ := parent?_of_pieces hpieces hnew (by simp)
  exact ⟨hfile, by rw [hparent, (parent?_of_pieces hp hname hvoids).2, keptParts_keptParts]⟩

/-- The path beside a path starts at the root if and only if the path does. -/
theorem head?_withFileName_eq_slash_iff (h : pieces '/' p = before ++ [name]) (hname : IsName name)
    (hnew : new.head? ≠ some '/') :
    (withFileName p new).head? = some '/' ↔ p.head? = some '/' := by
  have hout := pieces_withFileName h hname (by simp) hnew
  cases before with
  | nil =>
    refine iff_of_false ?_ ?_
    · rw [head?_eq_sep_iff, hout, keptParts, List.nil_append, ← head?_eq_sep_iff]
      exact hnew
    · rw [head?_eq_sep_iff, h]
      simp
  | cons first rest =>
    obtain ⟨m, ms, hm⟩ := List.exists_cons_of_ne_nil (pieces_ne_nil '/' new)
    rw [head?_eq_sep_iff, head?_eq_sep_iff, hout, h, hm, keptParts]
    cases rest <;> cases List.rdropWhile isVoid _ <;> simp

end Path

end ChordSheet
