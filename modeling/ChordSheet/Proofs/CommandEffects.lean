import ChordSheet.Command.Execute
import ChordSheet.Proofs.SavedSettings
import ChordSheet.Proofs.SheetFiles

/-!
# What commands leave behind

A line at the prompt does one of three things: it makes a key the default key and tries to save the
settings, it transposes a sheet, or it changes nothing. So after any lines the settings are those
that were loaded with the key that was set last, the file that keeps them holds what was saved
last, and no other file has changed but the transpositions.

Where a write that fails may have broken off, it may have spoiled the file that it was to replace.
Such writes are *torn*. What is said here is said of files with torn writes and of files without: a
torn write spoils the one file that the line was to write, and the answer tells that it failed.

* `Command.setKey?`, `Command.stored?`, `Command.written?` : what a line sets, stores and writes.
* `FileView.ChangedWithin` : which files can have changed.
* `Command.effect_execute` : the ways in which a line goes.
* `Command.executeAll_effect` : what any number of lines leave behind.
-/

set_option autoImplicit false

namespace ChordSheet

/-! ## Changes of files -/

namespace FileView

variable {σ : Type} [FileView σ] {a b c : σ} {p : Path} {ps qs : List Path}

/-- Paths go on leading where they led, and no file has changed but those to which some paths
lead. -/
structure ChangedWithin (ps : List Path) (before after : σ) : Prop where
  place : ∀ q l, place? before q = some l → place? after q = some l
  file : ∀ l, (∀ p ∈ ps, place? after p ≠ some l) →
    ∀ content, thing? after l = some (.file content) ↔ thing? before l = some (.file content)

theorem ChangedWithin.refl (ps : List Path) (s : σ) : ChangedWithin ps s s :=
  ⟨fun _ _ h => h, fun _ _ _ => Iff.rfl⟩

theorem ChangedWithin.trans (h : ChangedWithin ps a b) (h' : ChangedWithin qs b c) :
    ChangedWithin (ps ++ qs) a c := by
  refine ⟨fun q l hl => h'.place q l (h.place q l hl), fun l hl content => ?_⟩
  have hfirst : ∀ p ∈ ps, place? b p ≠ some l :=
    fun p hp hb => hl p (List.mem_append_left _ hp) (h'.place p l hb)
  have hsecond : ∀ p ∈ qs, place? c p ≠ some l := fun p hp => hl p (List.mem_append_right _ hp)
  exact (h'.file l hsecond content).trans (h.file l hfirst content)

theorem ChangedWithin.mono (h : ChangedWithin ps a b) (hsub : ∀ p ∈ ps, p ∈ qs) :
    ChangedWithin qs a b :=
  ⟨h.place, fun l hl => h.file l fun p hp => hl p (hsub p hp)⟩

theorem ChangedAt.within (h : ChangedAt p a b) : ChangedWithin [p] a b := by
  refine ⟨fun q l hl => (h.place_eq q).trans hl, fun l hl content => ?_⟩
  have hne : place? a p ≠ some l := by
    rw [← h.place_eq]
    exact hl p List.mem_cons_self
  rw [h.thing_eq l hne]

/-- None of these paths leads to the file to which a path leads. -/
def Apart (s : σ) (p : Path) (qs : List Path) : Prop :=
  ∀ q ∈ qs, place? s q = place? s p → place? s q = none

theorem Apart.place_ne (h : Apart b p qs) {l : Place σ} (hl : place? b p = some l) :
    ∀ q ∈ qs, place? b q ≠ some l := by
  intro q hq hlq
  rw [h q hq (hlq.trans hl.symm)] at hlq
  cases hlq

theorem Apart.mono (h : Apart b p qs) (hsub : ∀ q ∈ ps, q ∈ qs) : Apart b p ps :=
  fun q hq => h q (hsub q hq)

/-- Paths that are apart have been apart. -/
theorem Apart.before (h : ChangedWithin ps a b) (hb : Apart b p qs) : Apart a p qs := by
  intro q hq heq
  cases hl : place? a q with
  | none => rfl
  | some l => exact absurd (h.place q l hl) (hb.place_ne (h.place p l (heq.symm.trans hl)) q hq)

/-- The file to which a path leads is as it was, or there is none and there was none. -/
def UnchangedAt (p : Path) (before after : σ) : Prop :=
  ∀ l, place? after p = some l →
    ∀ content, thing? after l = some (.file content) ↔ thing? before l = some (.file content)

/-- A file is as it was if only other files have changed. -/
theorem ChangedWithin.unchangedAt (h : ChangedWithin ps a b) (hapart : Apart b p ps) :
    UnchangedAt p a b :=
  fun l hl => h.file l (hapart.place_ne hl)

theorem ChangedWithin.holds (h : ChangedWithin ps a b) {content : ByteArray}
    (hp : Holds a p content) (hapart : Apart b p ps) : Holds b p content := by
  obtain ⟨l, hl, hcontent⟩ := hp
  have hb := h.place p l hl
  exact ⟨l, hb, (h.unchangedAt hapart l hb content).mpr hcontent⟩

end FileView

open FileView

/-- A file system in which making directories changes no file, whether it succeeds or not. -/
class LastingFiles (σ : Type) [FileSystem (StateM σ)] [FileView σ] : Prop extends
    LawfulFiles σ where
  makeDirectories : ∀ (p : Path) (s : σ), ChangedWithin [] s
    ((FileSystem.makeDirectories p : StateM σ (Except FileError Unit)).run s).2

instance : LastingFiles Host where
  makeDirectories p h := by
    refine ⟨fun q l hl => ?_, fun l _ content => Disk.file_makeDirectories h.disk p l content⟩
    rw [Host.place?_eq_some_iff] at hl ⊢
    exact (Disk.grows_makeDirectories h.disk p).locate hl

/-! ## Settings in a file -/

namespace Config

variable {σ : Type} [FileSystem (StateM σ)] [FileView σ] [LastingFiles σ] {s : σ}

/-- Settings are loaded without a change, and can be stored. -/
theorem run_loadOrStandard (p : Path) (s : σ) : ∃ c : Config, c.Storable ∧
    (loadOrStandard p : StateM σ Config).run s = (c, s) := by
  obtain ⟨result, hrun, _⟩ := SheetFile.run_readText p s
  have hload : (load p : StateM σ (Except FileError Config)).run s = (result.map parse, s) := by
    rw [load, run_bind, hrun]
    rfl
  refine ⟨(result.map parse).toOption.getD standard, ?_, ?_⟩
  · cases result with
    | error e => exact storable_standard
    | ok content => exact storable_parse content
  · rw [loadOrStandard, run_bind, hload]
    rfl

/-- **Settings that were saved are loaded.** -/
theorem run_loadOrStandard_of_holds {c : Config} (hc : c.Storable) {p : Path}
    (h : Holds s p c.render.toUTF8) :
    (loadOrStandard p : StateM σ Config).run s = (c, s) := by
  rw [loadOrStandard, run_bind, load, run_bind, SheetFile.run_readText_of_holds h]
  dsimp only [Except.map]
  rw [hc.parse_render]
  rfl

/-- How settings are saved: first directories are made, then one file is written. It holds the
settings unless that fails, and has not changed then if writes are not torn. -/
structure SavedThrough (c : Config) (p : Path) (s made : σ) (result : Except FileError Unit)
    (after : σ) : Prop where
  directories : ChangedWithin [] s made
  changed : ChangedAt p made after
  holds : result = .ok () → Holds after p c.render.toUTF8
  whole : AtomicFiles σ → ∀ e, result = .error e → after = made

theorem run_save (c : Config) (p : Path) (s : σ) : ∃ made result after,
    (c.save p : StateM σ (Except FileError Unit)).run s = (result, after) ∧
      SavedThrough c p s made result after := by
  have hwrite : ∀ s made : σ, ChangedWithin [] s made → ∃ result after,
      (FileSystem.writeText p c.render : StateM σ (Except FileError Unit)).run made =
        (result, after) ∧ SavedThrough c p s made result after := by
    intro s made hmade
    obtain ⟨result, after, hrun, hchanged, hholds⟩ := LawfulFiles.write p c.render.toUTF8 made
    refine ⟨result, after, hrun, hmade, hchanged, hholds, ?_⟩
    rintro hatomic e rfl
    exact hatomic.write_error hrun
  unfold save
  split
  · exact ⟨s, hwrite s s (.refl _ _)⟩
  · rename_i parent _
    have hmade := LastingFiles.makeDirectories (String.ofList parent) s
    rw [run_bind]
    generalize (FileSystem.makeDirectories (String.ofList parent) :
      StateM σ (Except FileError Unit)).run s = run at hmade
    obtain ⟨result, made⟩ := run
    cases result with
    | error e =>
      refine ⟨made, .error e, made, rfl, hmade, .refl _ _, fun h => ?_, fun _ _ _ => rfl⟩
      cases h
    | ok => exact ⟨made, hwrite s made hmade⟩

end Config

/-! ## What a line can do -/

namespace Command

variable {σ : Type} [FileView σ] {s s' : σ}

/-- The key that a line makes the default key. -/
def setKey? (line : String) : Option Key :=
  match registry.dispatch? line with
  | some (.default, argument) => (Key.parse argument).toOption
  | _ => none

/-- What a line made of the file that keeps the settings, if it changed it: the file holds the
settings that the line stored, or nothing is known of it since the line failed to store them. That
counts as a change only if writes can be torn. -/
def stored? (torn : Bool) (line : String) (answer : Response × Context) : Option (Option Config) :=
  match setKey? line, answer.1 with
  | some _, .message _ => some (some answer.2.config)
  | some _, .error _ => if torn then some none else none
  | _, _ => none

/-- Whether the reason why a file was not transposed is that it could not be written. -/
def tellsOfWrite (reason : String) : Bool := "Failed to write ".toList.isPrefixOf reason.toList

/-- Whether a line wrote a transposition, as its answer tells: it sums the transposition up, or it
tells that the file could not be written. That counts only if writes can be torn. -/
def wrote (torn : Bool) : Response → Bool
  | .message _ => true
  | .error (.failed reason) => torn && tellsOfWrite reason
  | _ => false

/-- Where a line wrote the transposition of a sheet, if it did. -/
def written? (torn : Bool) (line : String) (answer : Response × Context) : Option Path :=
  match registry.dispatch? line with
  | some (.transpose, argument) =>
    match Argument.pathAndKey answer.2.config "" argument with
    | .ok (path, key) =>
      if wrote torn answer.1 then some (Path.output path answer.2.config.outputSuffix key) else none
    | .error _ => none
  | _ => none

/-- What was stored are the settings after the line. -/
theorem stored?_eq_some {torn : Bool} {line : String} {answer : Response × Context} {c : Config}
    (h : stored? torn line answer = some (some c)) : c = answer.2.config := by
  unfold stored? at h
  split at h
  · exact (Option.some.inj (Option.some.inj h)).symm
  · split at h <;> cases h
  · cases h

/-- What a line can do to the settings and the files, and the answer to it. -/
inductive Effect (torn : Bool) (line : String) (context : Context) (s : σ) :
    Response → Context → σ → Prop where
  /-- A key was made the default key, and the settings were saved. -/
  | saved {key : Key} {message : Message} {config : Config} {made after : σ} :
      setKey? line = some key → config = { context.config with defaultKey := some key } →
        ChangedWithin [] s made → Holds after context.configPath config.render.toUTF8 →
          ChangedAt context.configPath made after →
            Effect torn line context s (.message message) { context with config := config } after
  /-- A key was made the default key, but the settings could not be saved. -/
  | unsaved {key : Key} {error : CommandError} {made after : σ} :
      setKey? line = some key → ChangedWithin [] s made →
        ChangedAt context.configPath made after → (torn = false → after = made) →
          Effect torn line context s (.error error)
            { context with config := { context.config with defaultKey := some key } } after
  /-- A sheet was transposed. -/
  | transposed {outcome : Outcome} {after : σ} :
      setKey? line = none →
        written? torn line (.message outcome.summary, context) = some outcome.output →
          ChangedAt outcome.output s after →
            Effect torn line context s (.message outcome.summary) context after
  /-- The transposition of a sheet was written, but the write broke off. -/
  | broken {path : Path} {e : FileError} {after : σ} :
      torn = true → setKey? line = none →
        written? torn line (.error (.failed (Failure.write path e).message), context) = some path →
          ChangedAt path s after →
            Effect torn line context s (.error (.failed (Failure.write path e).message)) context
              after
  /-- Nothing was changed. -/
  | idle {response : Response} :
      setKey? line = none → written? torn line (response, context) = none →
        Effect torn line context s response context s

variable {torn : Bool} {line argument : String} {verb : Verb} {context : Context}

theorem setKey?_of_dispatch (h : registry.dispatch? line = some (verb, argument))
    (hverb : verb ≠ .default) : setKey? line = none := by
  rw [setKey?, h]
  cases verb <;> first | rfl | exact absurd rfl hverb

theorem written?_of_dispatch (h : registry.dispatch? line = some (verb, argument))
    (hverb : verb ≠ .transpose) (answer : Response × Context) :
    written? torn line answer = none := by
  rw [written?, h]
  cases verb <;> first | rfl | exact absurd rfl hverb

/-- The files that a line can have changed. -/
def touched (torn : Bool) (line : String) (answer : Response × Context) : List Path :=
  (written? torn line answer).toList ++
    ((stored? torn line answer).map fun _ => answer.2.configPath).toList

namespace Effect

variable {response : Response} {after : Context}

/-- The settings after a line have the key that it set, and are the same apart from that. -/
theorem context_eq (h : Effect torn line context s response after s') :
    after = { context with config := { context.config with
      defaultKey := (setKey? line).or context.config.defaultKey } } := by
  cases h with
  | saved hkey hconfig => rw [hkey, hconfig]; rfl
  | unsaved hkey => rw [hkey]; rfl
  | transposed hkey => rw [hkey]; rfl
  | broken _ hkey => rw [hkey]; rfl
  | idle hkey => rw [hkey]; rfl

theorem configPath_eq (h : Effect torn line context s response after s') :
    after.configPath = context.configPath := by
  rw [h.context_eq]

theorem changed (h : Effect torn line context s response after s') :
    ChangedWithin (touched torn line (response, after)) s s' := by
  cases h with
  | saved hkey hconfig hmade hholds hchanged =>
    refine (hmade.trans hchanged.within).mono ?_
    simp [touched, stored?, hkey]
  | unsaved hkey hmade hchanged hwhole =>
    cases torn with
    | false => exact hwhole rfl ▸ hmade.mono (by simp)
    | true =>
      refine (hmade.trans hchanged.within).mono ?_
      simp [touched, stored?, hkey]
  | transposed _ hwritten hchanged =>
    refine hchanged.within.mono ?_
    simp [touched, hwritten]
  | broken _ _ hwritten hchanged =>
    refine hchanged.within.mono ?_
    simp [touched, hwritten]
  | idle => exact .refl _ _

/-- A line that sets no key leaves the settings as they are, and their file unless it writes a
transposition there. -/
theorem of_setKey?_eq_none {p : Path} (h : Effect torn line context s response after s')
    (hkey : setKey? line = none)
    (hapart : Apart s' p (written? torn line (response, after)).toList) :
    after = context ∧ UnchangedAt p s s' := by
  have htouched : touched torn line (response, after) =
      (written? torn line (response, after)).toList := by
    rw [touched, stored?, hkey]
    exact List.append_nil _
  refine ⟨by rw [h.context_eq, hkey, Option.none_or], ?_⟩
  exact h.changed.unchangedAt (htouched ▸ hapart)

/-- Settings that were stored are in the file that keeps them. -/
theorem holds {c : Config} (h : Effect torn line context s response after s')
    (hc : stored? torn line (response, after) = some (some c)) :
    Holds s' after.configPath c.render.toUTF8 := by
  obtain rfl := stored?_eq_some hc
  cases h with
  | saved _ _ _ hholds _ => exact hholds
  | unsaved hkey => cases torn <;> simp [stored?, hkey] at hc
  | transposed hkey => simp [stored?, hkey] at hc
  | broken _ hkey => simp [stored?, hkey] at hc
  | idle hkey => simp [stored?, hkey] at hc

/-- A sheet that was transposed is summed up; a write that broke off is told. -/
theorem told {path : Path} (h : Effect torn line context s response after s')
    (hpath : written? torn line (response, after) = some path) :
    (∃ outcome : Outcome, response = .message outcome.summary ∧ outcome.output = path) ∨
      torn = true ∧ ∃ e, response = .error (.failed (Failure.write path e).message) := by
  have hdefault : ∀ {key answer}, setKey? line = some key → written? torn line answer = none := by
    intro key answer hkey
    cases hd : registry.dispatch? line with
    | none => rw [written?, hd]
    | some call =>
      obtain ⟨verb, argument⟩ := call
      refine written?_of_dispatch hd ?_ answer
      rintro rfl
      rw [setKey?_of_dispatch hd (by decide)] at hkey
      cases hkey
  cases h with
  | saved hkey => rw [hdefault hkey] at hpath; cases hpath
  | unsaved hkey => rw [hdefault hkey] at hpath; cases hpath
  | @transposed outcome _ _ hwritten =>
    exact .inl ⟨outcome, rfl, Option.some.inj (hwritten.symm.trans hpath)⟩
  | @broken path' e _ htorn _ hwritten =>
    obtain rfl := Option.some.inj (hwritten.symm.trans hpath)
    exact .inr ⟨htorn, e, rfl⟩
  | idle _ hwritten => rw [hwritten] at hpath; cases hpath

end Effect

/-! ## Courses of lines -/

/-- The context after some answers. -/
def contextAfter (context : Context) (answers : List (Response × Context)) : Context :=
  (answers.getLast?.map Prod.snd).getD context

/-- What some lines made of the file that keeps the settings, in order. -/
def stores (torn : Bool) (lines : List String) (answers : List (Response × Context)) :
    List (Option Config) :=
  (lines.zip answers).filterMap fun step => stored? torn step.1 step.2

/-- Where some lines wrote transpositions, in order. -/
def writes (torn : Bool) (lines : List String) (answers : List (Response × Context)) : List Path :=
  (lines.zip answers).filterMap fun step => written? torn step.1 step.2

/-- Lines with their answers, from one state of the settings and files to another. -/
inductive Course (torn : Bool) :
    Context → σ → List String → List (Response × Context) → σ → Prop where
  | nil {context : Context} {s : σ} : Course torn context s [] [] s
  | cons {context after : Context} {s mid s' : σ} {line : String} {response : Response}
      {lines : List String} {answers : List (Response × Context)} :
      Effect torn line context s response after mid → Course torn after mid lines answers s' →
        Course torn context s (line :: lines) ((response, after) :: answers) s'

namespace Course

variable {lines : List String} {answers : List (Response × Context)}

theorem contextAfter_cons (context after : Context) (response : Response)
    (answers : List (Response × Context)) :
    contextAfter context ((response, after) :: answers) = contextAfter after answers := by
  rw [contextAfter, contextAfter, List.getLast?_cons]
  cases answers.getLast? <;> rfl

theorem length_eq (h : Course torn context s lines answers s') : answers.length = lines.length := by
  induction h with
  | nil => rfl
  | cons _ _ ih => rw [List.length_cons, List.length_cons, ih]

/-- The settings after some lines have the key that was set last, and are the same apart from
that. -/
theorem contextAfter_eq (h : Course torn context s lines answers s') :
    contextAfter context answers = { context with config := { context.config with
      defaultKey := (lines.filterMap setKey?).getLast?.or context.config.defaultKey } } := by
  induction h with
  | nil => rfl
  | @cons context after s mid s' line response lines answers heffect _ ih =>
    rw [contextAfter_cons, ih, heffect.context_eq]
    cases hkey : setKey? line with
    | none => simp [hkey]
    | some key =>
      cases hlast : (lines.filterMap setKey?).getLast? <;>
        simp [hkey, List.getLast?_cons, hlast]

theorem configPath_eq (h : Course torn context s lines answers s') :
    ∀ answer ∈ answers, answer.2.configPath = context.configPath := by
  induction h with
  | nil => exact fun _ h => absurd h List.not_mem_nil
  | cons heffect _ ih =>
    intro answer hanswer
    rcases List.mem_cons.mp hanswer with rfl | hanswer
    · exact heffect.configPath_eq
    · exact (ih answer hanswer).trans heffect.configPath_eq

theorem changed (h : Course torn context s lines answers s') :
    ChangedWithin ((lines.zip answers).flatMap fun step => touched torn step.1 step.2) s s' := by
  induction h with
  | nil => exact .refl _ _
  | cons heffect _ ih => exact heffect.changed.trans ih

/-- The files that some lines can have changed are the transpositions, and the file that keeps the
settings if something was made of it. -/
theorem mem_touched (h : Course torn context s lines answers s') {path : Path}
    (hpath : path ∈ (lines.zip answers).flatMap fun step => touched torn step.1 step.2) :
    path ∈ writes torn lines answers ∨
      stores torn lines answers ≠ [] ∧ path = context.configPath := by
  obtain ⟨step, hstep, hmem⟩ := List.mem_flatMap.mp hpath
  rcases List.mem_append.mp hmem with hmem | hmem
  · exact .inl (List.mem_filterMap.mpr ⟨step, hstep, Option.mem_toList.mp hmem⟩)
  · obtain ⟨c, hc, rfl⟩ := Option.map_eq_some_iff.mp (Option.mem_toList.mp hmem)
    have hstores : c ∈ stores torn lines answers := List.mem_filterMap.mpr ⟨step, hstep, hc⟩
    exact .inr ⟨List.ne_nil_of_mem hstores, h.configPath_eq _ (List.of_mem_zip hstep).2⟩

/-- Until settings are stored, only transpositions are written. -/
theorem changed_of_stores_eq_nil (h : Course torn context s lines answers s')
    (hstores : stores torn lines answers = []) : ChangedWithin (writes torn lines answers) s s' :=
  h.changed.mono fun _ hpath => (h.mem_touched hpath).resolve_right fun hstored => hstored.1 hstores

theorem stores_cons (line : String) (lines : List String) (answer : Response × Context)
    (answers : List (Response × Context)) : stores torn (line :: lines) (answer :: answers) =
      (stored? torn line answer).toList ++ stores torn lines answers := by
  rw [stores, List.zip_cons_cons, List.filterMap_cons]
  cases stored? torn line answer <;> rfl

theorem writes_cons (line : String) (lines : List String) (answer : Response × Context)
    (answers : List (Response × Context)) : writes torn (line :: lines) (answer :: answers) =
      (written? torn line answer).toList ++ writes torn lines answers := by
  rw [writes, List.zip_cons_cons, List.filterMap_cons]
  cases written? torn line answer <;> rfl

theorem writes_append {before : List String} {first : List (Response × Context)}
    (hlength : first.length = before.length) (after : List String)
    (second : List (Response × Context)) : writes torn (before ++ after) (first ++ second) =
      writes torn before first ++ writes torn after second := by
  rw [writes, List.zip_append hlength.symm, List.filterMap_append]
  rfl

/-- The settings that were saved last are in the file that keeps them, if no transposition is
written there. -/
theorem holds (h : Course torn context s lines answers s')
    (hapart : Apart s' context.configPath (writes torn lines answers)) {c : Config}
    (hc : (stores torn lines answers).getLast? = some c) :
    Holds s' context.configPath c.render.toUTF8 := by
  induction h with
  | nil => cases hc
  | @cons context after s mid s' line response lines answers heffect hcourse ih =>
    have hpath := heffect.configPath_eq
    rw [writes_cons] at hapart
    have hlater := hapart.mono fun q hq => List.mem_append_right _ hq
    rw [stores_cons, List.getLast?_append] at hc
    cases hlast : (stores torn lines answers).getLast? with
    | some c' =>
      -- the settings were saved again
      rw [hlast] at hc
      rw [hpath] at ih
      exact ih hlater (hlast.trans hc)
    | none =>
      -- this was the last time, and afterwards only transpositions were written
      rw [hlast, Option.none_or] at hc
      have hfirst : stored? torn line (response, after) = some c := by
        cases hstored : stored? torn line (response, after) with
        | none => rw [hstored] at hc; cases hc
        | some c' => rw [hstored] at hc; exact hc
      have hholds := heffect.holds hfirst
      rw [hpath] at hholds
      exact (hcourse.changed_of_stores_eq_nil (List.getLast?_eq_none_iff.mp hlast)).holds hholds
        hlater

/-- Each transposition that was written is summed up, and each write that broke off is told. -/
theorem told (h : Course torn context s lines answers s') :
    ∀ step ∈ lines.zip answers, ∀ path, written? torn step.1 step.2 = some path →
      (∃ outcome : Outcome, step.2.1 = .message outcome.summary ∧ outcome.output = path) ∨
        torn = true ∧ ∃ e, step.2.1 = .error (.failed (Failure.write path e).message) := by
  induction h with
  | nil => exact fun _ h => absurd h List.not_mem_nil
  | cons heffect _ ih =>
    intro step hstep path hpath
    rw [List.zip_cons_cons] at hstep
    rcases List.mem_cons.mp hstep with rfl | hstep
    · exact heffect.told hpath
    · exact ih step hstep path hpath

theorem storable (h : Course torn context s lines answers s') (hc : context.config.Storable) :
    ∀ answer ∈ answers, answer.2.config.Storable := by
  induction h with
  | nil => exact fun _ h => absurd h List.not_mem_nil
  | @cons context after s mid s' line response lines answers heffect _ ih =>
    have hafter : after.config.Storable := by
      rw [heffect.context_eq]
      exact hc.withDefaultKey _
    intro answer hanswer
    rcases List.mem_cons.mp hanswer with rfl | hanswer
    · exact hafter
    · exact ih hafter answer hanswer

end Course

end Command

/-! ## Commands that are carried out -/

namespace Command

variable {σ : Type} [FileSystem (StateM σ)] {s : σ} {line argument : String} {context : Context}

theorem run_executeAll_cons (context : Context) (line : String) (lines : List String) (s : σ) :
    (executeAll context (line :: lines) : StateM σ (List (Response × Context))).run s =
      let first := (execute line context : StateM σ (Response × Context)).run s
      let second := (executeAll first.1.2 lines :
        StateM σ (List (Response × Context))).run first.2
      (first.1 :: second.1, second.2) := rfl

theorem run_executeAll_append (context : Context) (lines more : List String) (s : σ) :
    (executeAll context (lines ++ more) : StateM σ (List (Response × Context))).run s =
      let first := (executeAll context lines : StateM σ (List (Response × Context))).run s
      let second := (executeAll (contextAfter context first.1) more :
        StateM σ (List (Response × Context))).run first.2
      (first.1 ++ second.1, second.2) := by
  induction lines generalizing context s with
  | nil => rfl
  | cons line lines ih =>
    rw [List.cons_append, run_executeAll_cons, run_executeAll_cons]
    dsimp only
    rw [ih, Course.contextAfter_cons, List.cons_append]

variable [FileView σ] [LastingFiles σ] {torn : Bool}

theorem effect_setDefault (htorn : torn = false → AtomicFiles σ) {key : Key}
    (hkey : setKey? line = some key) (s : σ) :
    let run := (setDefault context key : StateM σ (Response × Context)).run s
    Effect torn line context s run.1.1 run.1.2 run.2 := by
  dsimp only
  obtain ⟨made, result, after, hrun, hsaved⟩ :=
    Config.run_save { context.config with defaultKey := some key } context.configPath s
  rw [setDefault, run_bind, hrun]
  cases result with
  | error e =>
    refine .unsaved hkey hsaved.directories hsaved.changed fun h => ?_
    exact hsaved.whole (htorn h) e rfl
  | ok => exact .saved hkey rfl hsaved.directories (hsaved.holds rfl) hsaved.changed

/-- A failure is told as one to write exactly if it is one. -/
theorem tellsOfWrite_message (f : Failure) :
    tellsOfWrite f.message = true ↔ ∃ p e, f = .write p e := by
  have hstart : ∀ headline path cause : String,
      tellsOfWrite (headline ++ path ++ ": " ++ cause) =
        "Failed to write ".toList.isPrefixOf
          (headline.toList ++ (path ++ (": " ++ cause)).toList) := by
    intro headline path cause
    rw [String.append_assoc, String.append_assoc, tellsOfWrite, String.toList_append]
  cases f with
  | read p e =>
    refine iff_of_false (fun h => ?_) fun h => by simp at h
    cases (hstart "Failed to read " p e.message).symm.trans h
  | transpose p e =>
    refine iff_of_false (fun h => ?_) fun h => by simp at h
    cases (hstart "Cannot transpose " p e.message).symm.trans h
  | write p e =>
    refine iff_of_true ((hstart "Failed to write " p e.message).trans ?_) ⟨p, e, rfl⟩
    exact List.isPrefixOf_iff_prefix.mpr (List.prefix_append _ _)

theorem wrote_failed (torn : Bool) (f : Failure) :
    wrote torn (.error (.failed f.message)) = true ↔ torn = true ∧ ∃ p e, f = .write p e := by
  rw [wrote, Bool.and_eq_true_iff, tellsOfWrite_message]

theorem effect_transpose (htorn : torn = false → AtomicFiles σ)
    (h : registry.dispatch? line = some (.transpose, argument)) (s : σ) :
    let run := (transpose context.config argument : StateM σ Response).run s
    Effect torn line context s run.1 context run.2 := by
  dsimp only
  have hkey : setKey? line = none := setKey?_of_dispatch h (by decide)
  unfold transpose
  cases hargument : Argument.pathAndKey context.config "transpose <file> [key]" argument with
  | error e =>
    refine .idle hkey ?_
    rw [written?, h]
    dsimp only
    split
    · rename_i hok
      rw [Argument.pathAndKey_form hok] at hargument
      cases hargument
    · rfl
  | ok target =>
    obtain ⟨path, key⟩ := target
    have hwritten : ∀ response, written? torn line (response, context) =
        if wrote torn response then some (Path.output path context.config.outputSuffix key)
        else none := by
      intro response
      rw [written?, h]
      dsimp only
      rw [Argument.pathAndKey_form hargument]
    have hquiet : ∀ f : Failure, ¬ (torn = true ∧ ∃ p e, f = .write p e) →
        written? torn line (.error (.failed f.message), context) = none := by
      intro f hf
      rw [hwritten, if_neg fun h => hf ((wrote_failed torn f).mp h)]
    dsimp only
    rw [transposeFile, run_bind]
    rcases SheetFile.run_transpose path context.config.outputSuffix key s with
      ⟨f, hf, hrun⟩ | ⟨_, _, result, after, _, _, hwrite, hchanged, hrun⟩
    · rw [hrun]
      refine .idle hkey (hquiet f ?_)
      rintro ⟨-, p, e, rfl⟩
      exact hf p e rfl
    cases result with
    | ok =>
      rw [hrun.1]
      exact .transposed hkey (hwritten _) hchanged
    | error e =>
      rw [hrun]
      cases torn with
      | true =>
        refine .broken rfl hkey ((hwritten _).trans (if_pos ?_)) hchanged
        exact (wrote_failed _ _).mpr ⟨rfl, _, e, rfl⟩
      | false =>
        obtain rfl := (htorn rfl).write_error hwrite
        exact .idle hkey (hquiet _ fun h => Bool.false_ne_true h.1)

/-- **A line saves settings, transposes a sheet, or changes nothing**, unless a write breaks off. -/
theorem effect_execute (htorn : torn = false → AtomicFiles σ) (line : String) (context : Context)
    (s : σ) :
    let run := (execute line context : StateM σ (Response × Context)).run s
    Effect torn line context s run.1.1 run.1.2 run.2 := by
  dsimp only
  unfold execute
  cases h : registry.dispatch? line with
  | none => exact .idle (by rw [setKey?, h]) (by rw [written?, h])
  | some call =>
    obtain ⟨verb, argument⟩ := call
    cases verb with
    | transpose => exact effect_transpose htorn h s
    | default =>
      have hidle : ∀ response, written? torn line (response, context) = none :=
        fun _ => written?_of_dispatch h (by decide) _
      dsimp only [run]
      split
      · rename_i hempty
        exact .idle (by rw [setKey?, h, hempty]; rfl) (hidle _)
      · split
        · rename_i key hkey
          exact effect_setDefault htorn (by rw [setKey?, h]; simp [hkey, Except.toOption]) s
        · rename_i e hkey
          exact .idle (by rw [setKey?, h]; simp [hkey, Except.toOption]) (hidle _)
    | _ => exact .idle (setKey?_of_dispatch h (by decide)) (written?_of_dispatch h (by decide) _)

/-- Lines that are carried out take a course. -/
theorem course_executeAll (htorn : torn = false → AtomicFiles σ) (context : Context) (s : σ)
    (lines : List String) :
    let run := (executeAll context lines : StateM σ (List (Response × Context))).run s
    Course torn context s lines run.1 run.2 := by
  dsimp only
  induction lines generalizing context s with
  | nil => exact .nil
  | cons line lines ih => exact .cons (effect_execute htorn line context s) (ih _ _)

/-- What some lines leave behind that began with settings that were loaded. -/
structure LeftBehind (torn : Bool) (loaded : Config) (configPath : Path) (s : σ)
    (lines : List String) (answers : List (Response × Context)) (now : σ) : Prop where
  /-- The default key is the one that was set last, the suffix is the one that was loaded. -/
  context : contextAfter ⟨loaded, configPath⟩ answers =
    ⟨⟨(lines.filterMap setKey?).getLast?.or loaded.defaultKey, loaded.outputSuffix⟩, configPath⟩
  /-- Until settings are stored, the file that keeps them is as it was. -/
  unsaved : stores torn lines answers = [] → UnchangedAt configPath s now
  /-- From then on it holds the settings that were stored last, and they are loaded again. -/
  saved : ∀ c, (stores torn lines answers).getLast? = some (some c) →
    Holds now configPath c.render.toUTF8 ∧
      (Config.loadOrStandard configPath : StateM σ Config).run now = (c, now)
  /-- The other files are as they were, but for the transpositions. -/
  others : ∀ l, place? now configPath ≠ some l →
    (∀ path ∈ writes torn lines answers, place? now path ≠ some l) →
      ∀ content, thing? now l = some (.file content) ↔ thing? s l = some (.file content)
  /-- A transposition was written where an answer sums one up, or a write broke off where an answer
  tells that. -/
  told : ∀ step ∈ lines.zip answers, ∀ path, written? torn step.1 step.2 = some path →
    (∃ outcome : Outcome, step.2.1 = .message outcome.summary ∧ outcome.output = path) ∨
      torn = true ∧ ∃ e, step.2.1 = .error (.failed (Failure.write path e).message)

/-- A course leaves behind what its lines say. -/
theorem Course.leftBehind {loaded : Config} {configPath : Path} {s' : σ} {lines : List String}
    {answers : List (Response × Context)}
    (h : Course torn ⟨loaded, configPath⟩ s lines answers s') (hloaded : loaded.Storable)
    (hapart : Apart s' configPath (writes torn lines answers)) :
    LeftBehind torn loaded configPath s lines answers s' where
  context := h.contextAfter_eq
  unsaved hstores := (h.changed_of_stores_eq_nil hstores).unchangedAt hapart
  saved c hc := by
    have hmem : some c ∈ stores torn lines answers := List.mem_of_getLast? hc
    obtain ⟨step, hstep, hstored⟩ := List.mem_filterMap.mp hmem
    have hstorable : c.Storable := by
      rw [stored?_eq_some hstored]
      exact h.storable hloaded step.2 (List.of_mem_zip hstep).2
    exact ⟨h.holds hapart hc, Config.run_loadOrStandard_of_holds hstorable (h.holds hapart hc)⟩
  others l hconfig hwrites := by
    refine h.changed.file l fun path hpath => ?_
    rcases h.mem_touched hpath with hwrite | ⟨_, rfl⟩
    · exact hwrites path hwrite
    · exact hconfig
  told := h.told

/-- What lines change, and what lasts, from settings that were loaded on, if none of the lines
writes a transposition to the file that keeps the settings. Every step leaves behind what the lines
up to it say, and a line that sets no key changes neither the settings nor the file that keeps
them. -/
def Lasts (torn : Bool) (configPath : Path) (s : σ) (lines : List String) : Prop :=
  let loaded := ((Config.loadOrStandard configPath : StateM σ Config).run s).1
  let run := (executeAll ⟨loaded, configPath⟩ lines : StateM σ (List (Response × Context))).run s
  Apart run.2 configPath (writes torn lines run.1) →
    ∀ before after, lines = before ++ after →
      let now := (executeAll ⟨loaded, configPath⟩ before :
        StateM σ (List (Response × Context))).run s
      now.1 = run.1.take before.length ∧
      LeftBehind torn loaded configPath s before now.1 now.2 ∧
      ∀ line, after.head? = some line → setKey? line = none →
        let context := contextAfter ⟨loaded, configPath⟩ now.1
        let next := (execute line context : StateM σ (Response × Context)).run now.2
        next.1.2 = context ∧ UnchangedAt configPath now.2 next.2

theorem lasts (htorn : torn = false → AtomicFiles σ) (configPath : Path) (s : σ)
    (lines : List String) : Lasts torn configPath s lines := by
  unfold Lasts
  intro loaded run hapart before after hlines now
  have hloaded : loaded.Storable := by
    obtain ⟨c, hc, hload⟩ := Config.run_loadOrStandard configPath s
    rwa [show loaded = c from congrArg Prod.fst hload]
  have hcourse : Course torn ⟨loaded, configPath⟩ s before now.1 now.2 :=
    course_executeAll htorn ..
  generalize hlater : (executeAll (contextAfter ⟨loaded, configPath⟩ now.1) after :
    StateM σ (List (Response × Context))).run now.2 = later
  have hcourse' : Course torn (contextAfter ⟨loaded, configPath⟩ now.1) now.2 after later.1
      later.2 := hlater ▸ course_executeAll htorn ..
  have hrun : run = (now.1 ++ later.1, later.2) := by
    rw [← hlater, show run = _ from congrArg (fun lines => (executeAll ⟨loaded, configPath⟩ lines :
      StateM σ (List (Response × Context))).run s) hlines, run_executeAll_append]
  rw [hrun, hlines, Course.writes_append hcourse.length_eq] at hapart
  refine ⟨?_, ?_, ?_⟩
  · rw [hrun, ← hcourse.length_eq, List.take_left]
  · refine hcourse.leftBehind hloaded (Apart.before hcourse'.changed ?_)
    exact hapart.mono fun _ => List.mem_append_left _
  · intro line hline hkey context next
    obtain ⟨rest, rfl⟩ := List.head?_eq_some_iff.mp hline
    have hrest := course_executeAll htorn next.1.2 next.2 rest
    rw [← hlater, run_executeAll_cons, Course.writes_cons] at hapart
    refine (effect_execute htorn line context now.2).of_setKey?_eq_none hkey ?_
    refine Apart.before hrest.changed (hapart.mono fun path hpath => ?_)
    exact List.mem_append_right _ (List.mem_append_left _ hpath)

end Command

end ChordSheet
