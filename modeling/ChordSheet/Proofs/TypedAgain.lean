import ChordSheet.Proofs.Margins
import ChordSheet.Proofs.Watching

/-!
# Lines that are typed again

A line that consists of the name of a command and an argument calls the command with the argument,
as long as the argument holds no backspace and has no blanks at its ends. So does every argument
that a line gives to a command: its backspaces were used up when the line was typed. Hence wherever
a line asks to watch a sheet, a line with the same argument asks to transpose it.

* `Registry.dispatch?_append` : a name and an argument are dispatched to what the name stands for.
* `Session.calls_append` : what a line calls that consists of a name and an argument.
* `TypedLine.backspace_not_mem_edited` : no backspace is left of a typed line.
* `Session.CallsFor.exists_transpose` : the line that transposes what another line watches.
-/

set_option autoImplicit false

namespace ChordSheet

namespace Text

theorem mem_of_mem_dropBytes {n : Nat} {s : List Char} {c : Char} (h : c ∈ dropBytes n s) :
    c ∈ s := by
  fun_induction dropBytes n s with
  | case1 => exact h
  | case2 => exact h
  | case3 n d ds ih => exact List.mem_cons_of_mem d (ih h)

end Text

namespace TypedLine

theorem backspace_not_mem_take {l : TypedLine} {cluster : List Char}
    (hl : backspace ∉ l.characters) (hc : backspace ∈ cluster → cluster = [backspace]) :
    backspace ∉ (l.take cluster).characters := by
  unfold take
  split
  · unfold erase
    split
    · exact hl
    · exact fun hmem => hl (Text.mem_of_mem_dropBytes hmem)
  · rename_i hne
    intro hmem
    rcases List.mem_append.mp hmem with hmem | hmem
    · exact hne (hc (List.mem_reverse.mp hmem))
    · exact hl hmem

/-- No backspace is left of a typed line. -/
theorem backspace_not_mem_edited (text : List Char) : backspace ∉ edited text := by
  have hclusters : ∀ g ∈ Text.clusters text, backspace ∈ g → g = [backspace] := by
    intro g hg hmem
    exact Text.eq_singleton_of_mem_clusters (Text.ClusterClass.ofChar_of_lt_space (by decide))
      (by decide) (by decide) hg hmem
  have hfold : ∀ (gs : List (List Char)) (l : TypedLine),
      (∀ g ∈ gs, backspace ∈ g → g = [backspace]) → backspace ∉ l.characters →
        backspace ∉ (gs.foldl take l).characters := by
    intro gs
    induction gs with
    | nil => exact fun _ _ hl => hl
    | cons g gs ih =>
      intro l hgs hl
      have hg := hgs g List.mem_cons_self
      exact ih _ (fun g' hg' => hgs g' (List.mem_cons_of_mem _ hg')) (backspace_not_mem_take hl hg)
  rw [edited, List.mem_reverse]
  exact hfold _ _ hclusters List.not_mem_nil

end TypedLine

/-! ## Names of commands -/

namespace Registry

variable {α : Type} {r : Registry α} {name : String} {meaning : α}

/-- Behind a name without spaces, only that name is called. -/
theorem callArgument?_append_cons {called : List Char} (hcalled : ' ' ∉ called)
    (hname : ' ' ∉ name.toList) (argument : List Char) :
    callArgument? called (name.toList ++ ' ' :: argument) =
      if called = name.toList then some (Text.trim (' ' :: argument)) else none := by
  apply Option.ext
  intro a
  rw [callArgument?_eq_some_iff]
  constructor
  · rintro (⟨hinput, _⟩ | ⟨rest, hinput, rfl⟩)
    · exact absurd (hinput ▸ by simp) hcalled
    · have hcut := congrArg (Text.cutFirst? (· == ' ')) hinput
      rw [Text.cutFirst?_append_cons _ hname, Text.cutFirst?_append_cons _ hcalled] at hcut
      obtain ⟨rfl, rfl⟩ := Prod.mk.inj (Option.some.inj hcut)
      rw [if_pos rfl]
  · intro h
    split at h
    · rename_i he
      cases h
      exact .inr ⟨argument, by rw [he], rfl⟩
    · cases h

/-- **A name and an argument are dispatched to what the name stands for.** -/
theorem dispatch?_append (hspaces : ∀ e ∈ r.entries, ' ' ∉ e.1.toList) (hnodup : r.names.Nodup)
    (hmem : (name, meaning) ∈ r.entries) (argument : String) :
    r.dispatch? (name ++ " " ++ argument) =
      some (meaning, String.ofList (Text.trim (' ' :: argument.toList))) := by
  obtain ⟨before, after, hentries⟩ := List.append_of_mem hmem
  have hinput : (name ++ " " ++ argument).toList = name.toList ++ ' ' :: argument.toList := by
    simp [String.toList_append]
  have hname := hspaces _ hmem
  rw [dispatch?, List.findSome?_eq_some_iff]
  refine ⟨before, (name, meaning), after, hentries, ?_, ?_⟩
  · simp [hinput, callArgument?_append_cons hname hname]
  · intro e he
    have hne : e.1.toList ≠ name.toList := by
      intro h
      rw [names, hentries, List.map_append, List.nodup_append] at hnodup
      exact hnodup.2.2 e.1 (List.mem_map_of_mem he) name (by simp) (String.toList_inj.mp h)
    rw [hinput, callArgument?_append_cons (hspaces e (hentries ▸ List.mem_append_left _ he)) hname,
      if_neg hne]
    rfl

end Registry

namespace Command

theorem spaceless_registry : ∀ e ∈ registry.entries, ' ' ∉ e.1.toList := by decide

theorem nodup_registry : registry.names.Nodup := by decide

/-- The names of commands can be typed, and they are registered. -/
theorem name_of_mem_verbs {name : String} {verb : Verb} (h : (name, verb) ∈ verbs) :
    name.toList ≠ [] ∧ TypedLine.backspace ∉ name.toList ∧ Text.Trimmed name.toList ∧
      (name, verb) ∈ registry.entries := by
  have hall : ∀ e ∈ verbs, e.1.toList ≠ [] ∧ TypedLine.backspace ∉ e.1.toList ∧
      Text.Trimmed e.1.toList ∧ e ∈ registry.entries := by decide
  exact hall _ h

end Command

/-! ## Arguments that are typed again -/

namespace Session

variable {c : Config} {text argument : String} {verb : Verb} {p : Path} {k : Key}

/-- An argument holds no backspace and no blanks at its ends. -/
theorem Calls.plain_argument (h : Calls text verb argument) (hne : argument ≠ "") :
    TypedLine.backspace ∉ argument.toList ∧ Text.Trimmed argument.toList := by
  obtain ⟨e, _, he⟩ := List.exists_of_findSome?_eq_some h
  obtain ⟨s, hs, heq⟩ := Option.map_eq_some_iff.mp he
  obtain ⟨-, rfl⟩ := Prod.mk.inj heq
  rw [String.toList_ofList] at hs ⊢
  rcases Registry.callArgument?_eq_some_iff.mp hs with ⟨_, rfl⟩ | ⟨rest, hinput, rfl⟩
  · exact absurd rfl hne
  · refine ⟨fun hmem => ?_, Text.trimmed_trim _⟩
    rcases List.mem_cons.mp (Text.mem_of_mem_trim hmem) with hspace | hmem
    · cases hspace
    · have hinput' : TypedLine.backspace ∈ Text.trim (TypedLine.edited text.toList) := by
        rw [hinput]
        simp [hmem]
      exact TypedLine.backspace_not_mem_edited _ (Text.mem_of_mem_trim hinput')

/-- A line that consists of the name of a command and an argument calls the command. -/
theorem calls_append {name : String} (hname : (name, verb) ∈ Command.verbs)
    (hback : TypedLine.backspace ∉ argument.toList) (htrimmed : Text.Trimmed argument.toList)
    (hne : argument ≠ "") : Calls (name ++ " " ++ argument) verb argument := by
  obtain ⟨hnonempty, hplain, hends, hmem⟩ := Command.name_of_mem_verbs hname
  have hlist : (name ++ " " ++ argument).toList = name.toList ++ ' ' :: argument.toList := by
    simp [String.toList_append]
  have hedited : TypedLine.edited (name ++ " " ++ argument).toList =
      (name ++ " " ++ argument).toList := by
    apply TypedLine.edited_eq_self
    rw [hlist, List.mem_append, List.mem_cons, not_or, not_or]
    exact ⟨hplain, by decide, hback⟩
  have htrim : Text.trim (name ++ " " ++ argument).toList = (name ++ " " ++ argument).toList := by
    rw [hlist]
    have hboth := hends.append htrimmed hnonempty (by simpa using hne) [' ']
    simpa using hboth.trim_eq
  have hargument : Text.trim (' ' :: argument.toList) = argument.toList := by
    rw [Text.trim_cons_of_isBlank (by decide), htrimmed.trim_eq]
  rw [Calls, hedited, htrim, String.ofList_toList,
    Registry.dispatch?_append Command.spaceless_registry Command.nodup_registry hmem argument,
    hargument, String.ofList_toList]

/-- **Where a line asks to watch a sheet, another one asks to transpose it.** -/
theorem CallsFor.exists_transpose (h : CallsFor c text .watch p k) :
    ∃ text', CallsFor c text' .transpose p k := by
  obtain ⟨argument, form, hcalls, hargument⟩ := h
  have hne : argument ≠ "" := by
    rintro rfl
    cases hargument
  obtain ⟨hback, htrimmed⟩ := hcalls.plain_argument hne
  have hname : ("transpose", Verb.transpose) ∈ Command.verbs := by decide
  exact ⟨_, argument, form, calls_append hname hback htrimmed hne, hargument⟩

end Session

end ChordSheet
