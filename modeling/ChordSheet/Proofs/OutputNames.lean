import ChordSheet.Proofs.PathParts

/-!
# The names of transpositions

The name of a transposition is the name of its sheet with the suffix and the letter of the key put
in: in front of the extension, or at the end if there is none. Name and key can be read off it as
long as the suffix is known. Where one name has an extension and another has none, the dots decide:
a name without an extension has no dot but at its front.

A suffix with a slash parts the name. Then the directory is another one, and only what stands behind
the last slash is the name of the file.

* `Path.outputName_inj` : name and key can be read off the name of a transposition.
* `Path.output_inj` : paths in one directory have different transpositions.
* `Path.lastPart_inj` : what can be read off behind the last slash.
* `Path.parent?_output`, `Path.parent?_output_ne` : a transposition stands beside its sheet,
  whatever the sheet, only if there is no slash in the suffix.
-/

set_option autoImplicit false

namespace ChordSheet

theorem Text.exists_append_last {sep : Char} {s : List Char} (h : sep ∈ s) :
    ∃ u v, s = u ++ sep :: v ∧ sep ∉ v := by
  cases hcut : cutLast? (· == sep) s with
  | none => exact absurd (cutLast?_eq_none hcut sep h) (by simp)
  | some cut =>
    obtain ⟨c, hc, hnone, hs⟩ := append_of_cutLast? hcut
    obtain rfl := beq_iff_eq.mp hc
    exact ⟨_, _, hs, fun hmem => absurd (hnone c hmem) (by simp)⟩

namespace Path

open Text

variable {name other stem stem' ending ending' suffix : List Char} {k l key : Key} {p q : Path}

theorem ne_letter (key : Key) : '/' ≠ key.letter ∧ '.' ≠ key.letter := by
  cases key <;> decide

/-! ## Where a name is cut -/

/-- A name cut into its stem and what follows it: an extension with its dot, or nothing if no dot
stands behind the first character. -/
inductive Cut : List Char → List Char → List Char → Prop
  | whole {name : List Char} (hdot : '.' ∉ name.tail) : Cut name name []
  | extension {c : Char} {cs extension : List Char} (hdot : '.' ∉ extension) :
      Cut (c :: cs ++ '.' :: extension) (c :: cs) ('.' :: extension)

/-- What a transposition puts into a name. -/
theorem exists_cut (name : List Char) : ∃ stem ending, Cut name stem ending ∧
    ∀ suffix key, outputName name suffix key = stem ++ suffix ++ key.letter :: ending := by
  cases hcut : cutLast? (· == '.') name with
  | none =>
    refine ⟨name, [], .whole fun hmem => ?_, fun suffix key => by
      simp only [outputName, stemAndExtension, hcut]⟩
    have hdot := cutLast?_eq_none hcut _ (List.mem_of_mem_tail hmem)
    cases hdot
  | some cut =>
    obtain ⟨stem, extension⟩ := cut
    obtain ⟨c, hc, hnone, rfl⟩ := append_of_cutLast? hcut
    obtain rfl := beq_iff_eq.mp hc
    have hdot : '.' ∉ extension := fun hmem => by cases hnone _ hmem
    cases stem with
    | nil =>
      rw [List.nil_append] at hcut ⊢
      exact ⟨'.' :: extension, [], .whole hdot, fun suffix key => by
        simp only [outputName, stemAndExtension, hcut]⟩
    | cons c cs =>
      exact ⟨c :: cs, '.' :: extension, .extension hdot, fun suffix key => by
        simp only [outputName, stemAndExtension, hcut]⟩

theorem Cut.append_eq (h : Cut name stem ending) : stem ++ ending = name := by
  cases h with
  | whole => exact List.append_nil _
  | extension => rfl

/-- The dots tell a name without an extension from one with an extension. -/
theorem append_ne_of_extension {c : Char} {cs extension : List Char} (hname : '.' ∉ name.tail)
    (hdot : '.' ∉ extension) :
    name ++ suffix ++ [k.letter] ≠ c :: cs ++ suffix ++ l.letter :: '.' :: extension := by
  intro he
  -- one dot more is in the extension, so that one is in the name, and it is the first character
  have hcount : name.count '.' = (c :: cs).count '.' + 1 := by
    have hdots := congrArg (List.count '.') he
    simp only [List.count_append, List.count_cons_of_ne (ne_letter k).2.symm,
      List.count_cons_of_ne (ne_letter l).2.symm, List.count_cons_self, List.count_nil,
      List.count_eq_zero.mpr hdot] at hdots
    omega
  cases name with
  | nil => cases hcount
  | cons d ds =>
    obtain ⟨rfl, -⟩ := List.cons.inj he
    have hds : ds.count '.' = 0 := List.count_eq_zero.mpr hname
    simp only [List.count_cons, hds] at hcount
    omega

theorem forall_ne_dot {extension : List Char} (h : '.' ∉ extension) :
    ∀ x ∈ extension, (x == '.') = false :=
  fun _ hx => beq_false_of_ne fun he => h (he ▸ hx)

theorem append_letter_inj (h : stem ++ suffix ++ [k.letter] = stem' ++ suffix ++ [l.letter]) :
    stem = stem' ∧ k = l := by
  rw [List.append_assoc, List.append_assoc] at h
  obtain ⟨hstem, hrest⟩ := List.append_inj' h (by simp)
  exact ⟨hstem, Note.letter_inj.mp (List.cons.inj (List.append_cancel_left hrest)).1⟩

theorem Cut.inj (h : Cut name stem ending) (h' : Cut other stem' ending')
    (he : stem ++ suffix ++ k.letter :: ending = stem' ++ suffix ++ l.letter :: ending') :
    name = other ∧ k = l := by
  cases h with
  | whole hname =>
    cases h' with
    | whole => exact append_letter_inj he
    | extension hdot => exact absurd he (append_ne_of_extension hname hdot)
  | extension hdot =>
    cases h' with
    | whole hname => exact absurd he.symm (append_ne_of_extension hname hdot)
    | extension hdot' =>
      -- the last dots are the same
      rw [List.append_cons _ k.letter, List.append_cons _ l.letter] at he
      have hcut := congrArg (cutLast? (· == '.')) he
      rw [cutLast?_append_cons _ rfl (forall_ne_dot hdot),
        cutLast?_append_cons _ rfl (forall_ne_dot hdot'), Option.some.injEq, Prod.mk.injEq] at hcut
      obtain ⟨hstem, rfl⟩ := hcut
      obtain ⟨hcs, rfl⟩ := append_letter_inj hstem
      exact ⟨by rw [hcs], rfl⟩

/-- **Name and key can be read off the name of a transposition.** -/
theorem outputName_inj (h : outputName name suffix k = outputName other suffix l) :
    name = other ∧ k = l := by
  obtain ⟨stem, ending, hcut, hout⟩ := exists_cut name
  obtain ⟨stem', ending', hcut', hout'⟩ := exists_cut other
  rw [hout, hout'] at h
  exact hcut.inj hcut' h

/-- No transposition has the name of its sheet. -/
theorem outputName_ne (name suffix : List Char) (key : Key) :
    outputName name suffix key ≠ name := by
  obtain ⟨stem, ending, hcut, hout⟩ := exists_cut name
  intro he
  have hlength := congrArg List.length (he.trans hcut.append_eq.symm)
  simp only [hout, List.length_append, List.length_cons] at hlength
  omega

/-! ## Parts of the name -/

/-- A part with the letter of a key in it is a name. -/
theorem isName_of_letter_mem (h : key.letter ∈ name) : IsName name := by
  have hdot := (ne_letter key).2.symm
  constructor
  · rw [isVoid, Bool.or_eq_false_iff, beq_eq_false_iff_ne, beq_eq_false_iff_ne]
    exact ⟨List.ne_nil_of_mem h, fun he => by simp [he, hdot] at h⟩
  · rintro rfl
    simp [hdot] at h

theorem letter_mem_outputName (name suffix : List Char) (key : Key) :
    key.letter ∈ outputName name suffix key := by
  obtain ⟨stem, ending, -, hout⟩ := exists_cut name
  simp [hout]

/-- The name of a transposition starts as the name of the sheet. -/
theorem head?_outputName (hname : name ≠ []) (suffix : List Char) (key : Key) :
    (outputName name suffix key).head? = name.head? := by
  obtain ⟨stem, ending, hcut, hout⟩ := exists_cut name
  rw [hout]
  cases hcut with
  | whole =>
    obtain ⟨c, cs, rfl⟩ := List.exists_cons_of_ne_nil hname
    rfl
  | extension => rfl

/-- What is new in the name of a transposition is the suffix and the letter of the key. -/
theorem mem_outputName_iff {c : Char} (hname : c ∉ name) {key : Key} (hkey : c ≠ key.letter)
    (suffix : List Char) : c ∈ outputName name suffix key ↔ c ∈ suffix := by
  obtain ⟨stem, ending, hcut, hout⟩ := exists_cut name
  rw [← hcut.append_eq, List.mem_append, not_or] at hname
  simp [hout, hname.1, hname.2, hkey]

theorem slash_not_mem_outputName (hname : '/' ∉ name) (hsuffix : '/' ∉ suffix) (key : Key) :
    '/' ∉ outputName name suffix key :=
  fun h => hsuffix ((mem_outputName_iff hname (ne_letter key).1 suffix).mp h)

/-- What stands behind the last slash in the name of a transposition. -/
def lastPart (name suffix : List Char) (key : Key) : List Char :=
  (pieces '/' (outputName name suffix key)).getLast (pieces_ne_nil _ _)

theorem lastPart_of_not_mem (hname : '/' ∉ name) (hsuffix : '/' ∉ suffix) (key : Key) :
    lastPart name suffix key = outputName name suffix key := by
  simp only [lastPart, pieces_of_not_mem (slash_not_mem_outputName hname hsuffix key),
    List.getLast_singleton]

/-- The last slash of a suffix parts the names of transpositions. -/
theorem exists_pieces_outputName (hname : '/' ∉ name) {u v : List Char} (hv : '/' ∉ v) :
    ∃ stem ending, ∀ key, pieces '/' (outputName name (u ++ '/' :: v) key) =
      pieces '/' (stem ++ u) ++ [v ++ key.letter :: ending] := by
  obtain ⟨stem, ending, hcut, hout⟩ := exists_cut name
  refine ⟨stem, ending, fun key => ?_⟩
  rw [← hcut.append_eq, List.mem_append, not_or] at hname
  have hlast : '/' ∉ v ++ key.letter :: ending := by
    simp [hv, hname.2, (ne_letter key).1]
  rw [hout, List.append_assoc, List.append_assoc, List.cons_append, ← List.append_assoc,
    pieces_append_sep, pieces_of_not_mem hlast]

/-- **What can be read off behind the last slash** in the name of a transposition: the key, and the
name of the sheet if there is no slash in the suffix. -/
theorem lastPart_inj (hname : '/' ∉ name) (hother : '/' ∉ other)
    (h : lastPart name suffix k = lastPart other suffix l) :
    k = l ∧ ('/' ∉ suffix → name = other) := by
  by_cases hsuffix : '/' ∈ suffix
  · obtain ⟨u, v, rfl, hv⟩ := exists_append_last hsuffix
    obtain ⟨stem, ending, hout⟩ := exists_pieces_outputName (u := u) hname hv
    obtain ⟨stem', ending', hout'⟩ := exists_pieces_outputName (u := u) hother hv
    simp only [lastPart, hout, hout', List.getLast_append_singleton] at h
    have hletter := (List.cons.inj (List.append_cancel_left h)).1
    exact ⟨Note.letter_inj.mp hletter, fun hnone => absurd hsuffix hnone⟩
  · rw [lastPart_of_not_mem hname hsuffix, lastPart_of_not_mem hother hsuffix] at h
    obtain ⟨hnames, hkeys⟩ := outputName_inj h
    exact ⟨hkeys, fun _ => hnames⟩

/-! ## Paths of transpositions -/

theorem slash_not_mem_fileName? (h : fileName? p.toList = some name) : '/' ∉ name := by
  obtain ⟨before, voids, hpieces, -⟩ := exists_pieces_of_fileName? h
  exact not_sep_mem_pieces (s := p.toList) (by simp [hpieces])

theorem toList_output (h : fileName? p.toList = some name) (suffix : String) (key : Key) :
    (output p suffix key).toList =
      withFileName p.toList (outputName name suffix.toList key) := by
  rw [output, String.toList_ofList, h]
  rfl

theorem output_ne_empty (p : Path) (suffix : String) (key : Key) : output p suffix key ≠ "" := by
  intro h
  have happend : ∀ base : List Char, key.letter ∈ append base
      (outputName ((fileName? p.toList).getD []) suffix.toList key) := by
    intro base
    have hmem := letter_mem_outputName ((fileName? p.toList).getD []) suffix.toList key
    unfold append
    split
    · exact hmem
    · split <;> simp [hmem]
  have hlist := congrArg String.toList h
  rw [output, String.toList_ofList, withFileName] at hlist
  have hne := List.ne_nil_of_mem (happend p.toList)
  split at hlist
  · exact List.ne_nil_of_mem (happend _) hlist
  · exact hne hlist

/-- Names that go on from one path and do not start at the root are told apart by the paths. -/
theorem append_inj {base new new' : List Char} (hnew : new.head? ≠ some '/')
    (hnew' : new'.head? ≠ some '/') (h : append base new = append base new') : new = new' := by
  rw [append, append, if_neg hnew, if_neg hnew'] at h
  split at h
  · exact List.append_cancel_left h
  · exact (List.cons.inj (List.append_cancel_left h)).2

/-- **Paths in one directory have different transpositions** unless file names and keys are the
same. -/
theorem output_inj (hp : fileName? p.toList = some name) (hq : fileName? q.toList = some other)
    (hdir : parent? p.toList = parent? q.toList) {suffix : String} :
    output p suffix k = output q suffix l ↔ name = other ∧ k = l := by
  have hhead : ∀ {r : Path} {n : List Char} (j : Key), fileName? r.toList = some n →
      (outputName n suffix.toList j).head? ≠ some '/' := by
    intro r n j hr
    have hne : n ≠ [] := by
      rintro rfl
      cases (isName_of_fileName? hr).not_void
    rw [head?_outputName hne]
    exact fun he => slash_not_mem_fileName? hr (List.mem_of_head? he)
  rw [← String.toList_inj, toList_output hp, toList_output hq, withFileName, withFileName, hp, hq,
    hdir]
  constructor
  · intro h
    exact outputName_inj (append_inj (hhead k hp) (hhead l hq) h)
  · rintro ⟨rfl, rfl⟩
    rfl

/-- **A transposition stands beside its sheet** if there is no slash in the suffix. -/
theorem parent?_output (h : fileName? p.toList = some name) {suffix : String}
    (hsuffix : '/' ∉ suffix.toList) (key : Key) :
    fileName? (output p suffix key).toList = some (outputName name suffix.toList key) ∧
      parent? (output p suffix key).toList = parent? p.toList := by
  rw [toList_output h]
  exact parent?_withFileName h (isName_of_letter_mem (letter_mem_outputName _ _ key))
    (slash_not_mem_outputName (slash_not_mem_fileName? h) hsuffix key)

theorem toList_output_song (suffix : String) (key : Key) :
    (output "song.txt" suffix key).toList =
      "song".toList ++ suffix.toList ++ key.letter :: ".txt".toList := by
  rw [toList_output (show fileName? "song.txt".toList = some "song.txt".toList from rfl)]
  show append [] _ = _
  rw [append, if_neg (by rw [head?_outputName (by decide)]; decide), if_pos (by decide)]
  rfl

/-- A slash in the suffix leads into another directory. -/
theorem parent?_output_ne {suffix : String} (hsuffix : '/' ∈ suffix.toList) (key : Key) :
    parent? (output "song.txt" suffix key).toList ≠ parent? "song.txt".toList := by
  obtain ⟨u, v, hcut, hv⟩ := exists_append_last hsuffix
  have hlast : '/' ∉ v ++ key.letter :: ".txt".toList := by
    simp [hv, (ne_letter key).1]
  have hpieces : pieces '/' (output "song.txt" suffix key).toList =
      pieces '/' ("song".toList ++ u) ++ [v ++ key.letter :: ".txt".toList] := by
    rw [← pieces_of_not_mem hlast, ← pieces_append_sep, toList_output_song, hcut]
    simp
  have hname : IsName (v ++ key.letter :: ".txt".toList) :=
    isName_of_letter_mem (List.mem_append_right v List.mem_cons_self)
  obtain ⟨q, qs, hq⟩ := List.exists_cons_of_ne_nil (pieces_ne_nil '/' ("ong".toList ++ u))
  have hsong : pieces '/' ("song".toList ++ u) = ('s' :: q) :: qs := by
    show pieces '/' ('s' :: ("ong".toList ++ u)) = _
    rw [pieces, if_neg (by decide), hq]
  rw [(parent?_of_pieces hpieces hname (by simp)).2, hsong]
  show some (directory (('s' :: q) :: qs.rdropWhile isVoid)) ≠ some []
  rw [directory, if_neg (by simp)]
  cases qs.rdropWhile isVoid <;> simp [join]

end Path

end ChordSheet
