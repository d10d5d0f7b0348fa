import ChordSheet.Program
import ChordSheet.Proofs.Arguments
import ChordSheet.Proofs.FilesApart
import ChordSheet.Proofs.LongPaths

/-!
# Three ways to transpose a file

A file and a key can be named on the command line, in a line that transposes the file, and in a line
that watches it. All three lead to the same transposition: they leave the same files, and say the
same, each in its own form. That is so on every computer on which files decide how reading and
writing go. A name is read alike everywhere unless the prompt uses up a backspace in it, and a file
can be watched if the notifier can be made ready and does not refuse it; a host refuses a file only
if its absolute path is too long.

* `Ending.Tells` : a run that is over and an answer at the prompt tell the same.
* `Usage.parse_file_key`, `Argument.pathAndKey_append` : what the words and the line are read as.
* `Session.three_ways_on` : the three ways agree on every computer.
* `HostedSession.three_ways` : and so they do on a host, whatever was done before.
* `HostedSession.ways_part` : where they do not.
-/

set_option autoImplicit false

namespace ChordSheet

/-! ## Names and keys -/

/-- A name of a file that is read alike on the command line and at the prompt. -/
structure PlainName (f : Path) : Prop where
  ne_empty : f ≠ ""
  dash : f.toList.head? ≠ some '-'
  trimmed : Text.Trimmed f.toList
  backspace : TypedLine.backspace ∉ f.toList

namespace Key.Spelt

variable {k : Key} {c : Char}

theorem ne_dash (h : k.Spelt c) : c ≠ '-' := by
  rcases h with rfl | rfl <;> cases k <;> decide

theorem ne_backspace (h : k.Spelt c) : c ≠ TypedLine.backspace := by
  rcases h with rfl | rfl <;> cases k <;> decide

end Key.Spelt

/-! ## Reading the words of a command line -/

namespace Usage

/-- An argument that does not start with a dash is a key that is to come, or a file. -/
theorem readArgument_of_head_ne {argument : String} (h : argument.toList.head? ≠ some '-')
    (s : Progress) :
    readArgument s argument =
      if s.pending = some (.key none) then
        .ok { s with pending := some (.key (some argument)) }
      else readFile s argument := by
  unfold readArgument
  split
  · rename_i hlist
    exact absurd (by rw [hlist]; rfl) h
  · rename_i hlist
    exact absurd (by rw [hlist]; rfl) h
  · rfl

theorem readArguments_cons {s after : Progress} {argument : String} (hne : argument ≠ "--")
    (h : readArgument s argument = .ok after) (rest : List String) :
    readArguments s (argument :: rest) = readArguments after rest := by
  rw [readArguments, if_neg hne, h]
  rfl

/-- A file and a key ask for a transposition. -/
theorem parse_file_key {f : Path} {c : Char} {k : Key} (hf : PlainName f) (hc : k.Spelt c) :
    parse [f, "-k", c.toString] = .ok (.run ⟨some f, some k, false⟩) := by
  have hdashes : ∀ s : String, s.toList.head? ≠ some '-' → s ≠ "--" := by
    rintro s hs rfl
    exact hs rfl
  have hkey : c.toString.toList.head? ≠ some '-' := by
    simpa using hc.ne_dash
  have hfile : readArgument initial f = .ok ⟨⟨none, none, false⟩, true, some (.file f)⟩ := by
    rw [readArgument_of_head_ne hf.dash]
    rfl
  have hflag : readArgument ⟨⟨none, none, false⟩, true, some (.file f)⟩ "-k" =
      .ok ⟨⟨some f, none, false⟩, true, some (.key none)⟩ := by
    show takeFlag _ .key = _
    rw [takeFlag, resolve]
    dsimp only
    rw [if_neg hf.ne_empty]
    rfl
  have hvalue : readArgument ⟨⟨some f, none, false⟩, true, some (.key none)⟩ c.toString =
      .ok ⟨⟨some f, none, false⟩, true, some (.key (some c.toString))⟩ := by
    rw [readArgument_of_head_ne hkey]
    rfl
  have hresolve : resolve ⟨⟨some f, none, false⟩, true, some (.key (some c.toString))⟩ =
      .ok ⟨⟨some f, some k, false⟩, true, none⟩ := by
    rw [resolve]
    dsimp only
    rw [takeKey, hc.parse]
    rfl
  have hread : readArguments initial [f, "-k", c.toString] =
      .ok ⟨⟨some f, some k, false⟩, true, none⟩ := by
    rw [readArguments_cons (hdashes f hf.dash) hfile, readArguments_cons (by decide) hflag,
      readArguments_cons (hdashes _ hkey) hvalue, readArguments, hresolve]
  rw [parse, hread]
  rfl

end Usage

/-! ## Reading the argument of a line -/

namespace Argument

/-- A path, a blank and a key are read as the path and the key. -/
theorem pathAndKey_append {f : Path} {c : Char} {k : Key} (hf : PlainName f) (hc : k.Spelt c)
    (config : Config) (form : String) :
    pathAndKey config form (f ++ " " ++ c.toString) = .ok (f, k) := by
  have hsplit : PathThenKey (f ++ " " ++ c.toString) f k :=
    ⟨hf.ne_empty, hf.trimmed, " ", c, rfl, by decide, by decide, hc⟩
  exact hsplit.pathAndKey config form

end Argument

namespace Session

/-- A line with the name of a command, a file and a key. -/
def lineFor (name : String) (f : Path) (c : Char) : String := name ++ " " ++ f ++ " " ++ c.toString

/-- A line with the name of a command, a file and a key calls for both. -/
theorem callsFor_lineFor {name : String} {verb : Verb} (hname : (name, verb) ∈ Command.verbs)
    {f : Path} {c : Char} {k : Key} (hf : PlainName f) (hc : k.Spelt c) (config : Config) :
    CallsFor config (lineFor name f c) verb f k := by
  have hlist : (f ++ " " ++ c.toString).toList = f.toList ++ [' '] ++ [c] := by
    simp [String.toList_append]
  have hback : TypedLine.backspace ∉ (f ++ " " ++ c.toString).toList := by
    rw [hlist]
    simp only [List.mem_append, List.mem_singleton, not_or]
    exact ⟨⟨hf.backspace, by decide⟩, hc.ne_backspace.symm⟩
  have htrimmed : Text.Trimmed (f ++ " " ++ c.toString).toList := by
    rw [hlist]
    have hletter : Text.Trimmed [c] := Text.trimmed_of_forall (by simpa using hc.isBlank)
    exact hf.trimmed.append hletter (by simpa using hf.ne_empty) (List.cons_ne_nil _ _) [' ']
  have hne : f ++ " " ++ c.toString ≠ "" := by
    intro he
    rw [he] at hlist
    exact absurd hlist.symm (by simp)
  refine ⟨f ++ " " ++ c.toString, "", ?_, Argument.pathAndKey_append hf hc config ""⟩
  have hcalls := calls_append hname hback htrimmed hne
  rwa [← String.append_assoc, ← String.append_assoc] at hcalls

end Session

/-! ## What the command line does -/

/-- A complaint is written behind its mark. -/
theorem Session.render_complaint (color : Color) (text : String) :
    Message.render false (complaint ++ Message.colored color text) = "Error: " ++ text := by
  have hmark : Message.render false complaint = "Error: " := by decide
  rw [Message.render_append, Message.render_false_colored, hmark]

namespace Ending

/-- How a run ends that transposed a sheet, or could not. -/
def reported : Except Failure Outcome → Ending
  | .ok outcome => .success [outcome.summary]
  | .error f => .ofFailure f

/-- A run that is over and an answer at the prompt tell the same: both sum a transposition up, or
both say why there is none. -/
structure Tells (ending : Ending) (output : List Message) : Prop where
  success : ∀ o : Outcome, ending.code = 0 ∧ ending.output = [o.summary] ↔ output = [o.summary]
  done : ending.code = 0 →
    (∀ colors, ending.diagnostics colors = "") ∧ ∃ o : Outcome, output = [o.summary]
  failed : ending.code ≠ 0 → ending.code = 1 ∧ ending.output = [] ∧
    ∃ (outer inner : String) (m : Message), output = [m] ∧
      (∀ colors, ending.diagnostics colors =
        "Error: " ++ outer ++ "\n\nCaused by:\n    " ++ inner ++ "\n") ∧
      m.render false = "Error: " ++ outer ++ ": " ++ inner

theorem tells_reported (result : Except Failure Outcome) :
    (reported result).Tells (Session.messages (Command.reported result)) := by
  cases result with
  | ok outcome =>
    refine ⟨fun o => ?_, fun _ => ⟨fun _ => rfl, outcome, rfl⟩, fun h => absurd rfl h⟩
    exact and_iff_right rfl
  | error f =>
    refine ⟨fun o => ?_, fun h => absurd h Nat.one_ne_zero, fun _ => ⟨rfl, rfl, ?_⟩⟩
    · refine iff_of_false (fun h => absurd h.1 Nat.one_ne_zero) ?_
      simp [Session.messages, Command.reported, Session.complaint, Outcome.summary,
        Message.boldColored, Message.colored]
    · refine ⟨f.headline, f.cause,
        Session.complaint ++ Message.colored .red (f.headline ++ ": " ++ f.cause), rfl, ?_, ?_⟩
      · intro colors
        simp [reported, ofFailure, diagnostics, String.append_assoc]
      · rw [Session.render_complaint]
        simp [String.append_assoc]

end Ending

namespace Program

variable {m : Type → Type} [Monad m] [FileSystem m]

theorem transposeOnce_eq [LawfulMonad m] (config : Config) (f : Path) (k : Key) :
    (transposeOnce config f k : m Start) = (do
      return .ended (Ending.reported (← SheetFile.transpose f config.outputSuffix k))) := by
  refine bind_congr fun result => ?_
  cases result <;> rfl

/-- A command line with a file and a key transposes the file, with the suffix in the settings. -/
theorem start_file_key [LawfulMonad m] [Notifier m] {f : Path} {c : Char} {k : Key}
    (hf : PlainName f) (hc : k.Spelt c) (configPath : Path) :
    (start [f, "-k", c.toString] configPath : m Start) = (do
      let config ← Config.loadOrStandard configPath
      return .ended (Ending.reported (← SheetFile.transpose f config.outputSuffix k))) := by
  rw [start, Usage.parse_file_key hf hc]
  exact bind_congr fun config => transposeOnce_eq config f k

end Program

/-! ## On every computer -/

namespace Session

open HasFiles

section

variable {σ : Type} [FileSystem (StateM σ)] [Notifier (StateM σ)] {s : Session} {p : Path} {k : Key}
  {before ready : σ}

theorem run_watch_of_not_ready {e : WatchError}
    (hstart : (Notifier.start : StateM σ (Except WatchError Unit)).run before =
      (.error e, ready)) :
    (s.watch p k : StateM σ (List Message × Session)).run before = (([notReady e], s), ready) := by
  rw [watch, run_bind, hstart]
  rfl

variable {place : Path} {there noted : σ}
  (hstart : (Notifier.start : StateM σ (Except WatchError Unit)).run before = (.ok (), ready))
  (hplace : (FileSystem.canonical p : StateM σ Path).run ready = (place, there))
  (hnone : s.watches.keyOf? place = none)
include hstart hplace hnone

theorem run_watch_of_refused {e : WatchError}
    (hnoted : (Notifier.subscribe place : StateM σ (Except WatchError Unit)).run there =
      (.error e, noted)) :
    (s.watch p k : StateM σ (List Message × Session)).run before =
      (([refused "watch" p e], s), noted) := by
  have htable : (s.watches.watch p k : StateM σ _).run ready = ((.error e, s.watches), noted) := by
    rw [WatchTable.watch, run_bind, hplace, hnone]
    dsimp only
    rw [run_bind, hnoted]
    rfl
  rw [watch, run_bind, hstart]
  dsimp only
  rw [follow, run_bind, htable]
  rfl

theorem run_watch_of_followed
    (hnoted : (Notifier.subscribe place : StateM σ (Except WatchError Unit)).run there =
      (.ok (), noted)) :
    (s.watch p k : StateM σ (List Message × Session)).run before =
      let run := (s.transpose p k : StateM σ (List Message)).run noted
      ((watching p k :: run.1, { s with watches := s.watches.set place k }), run.2) := by
  have htable : (s.watches.watch p k : StateM σ _).run ready =
      ((.ok none, s.watches.set place k), noted) := by
    rw [WatchTable.watch, run_bind, hplace, hnone]
    dsimp only
    rw [run_bind, hnoted]
    rfl
  rw [watch, run_bind, hstart]
  dsimp only
  rw [follow, run_bind, htable]
  rfl

end

variable {σ : Type} [FileSystem (StateM σ)] [Notifier (StateM σ)] [HasFiles σ]

/-- What a session does with a line that has the name of a command, a file and a key. -/
def typed (s : Session) (name : String) (f : Path) (c : Char) (before : σ) :
    (List Message × Session) × σ :=
  (s.step (.line (lineFor name f c)) : StateM σ (List Message × Session)).run before

/-- The three ways to transpose a file agree, beside a session and on a computer with some
settings. -/
structure WaysAgree (s : Session) (configPath f : Path) (c : Char) (k : Key) (before : σ) :
    Prop where
  /-- The command line does what the line does that transposes the file: it leaves the same files,
  it succeeds and sums the transposition up exactly if the line does, and else it fails with the
  reason that the line gives. -/
  command : ∃ (ending : Ending) (after : σ),
    (Program.start [f, "-k", c.toString] configPath : StateM σ Start).run before =
      (.ended ending, after) ∧
    ending.Tells (s.typed "transpose" f c before).1.1 ∧
    files after = files (s.typed "transpose" f c before).2
  /-- So does the line that watches the file, if the file is not watched and the notifier follows
  it. -/
  followed : ∀ place ready there noted,
    (Notifier.start : StateM σ (Except WatchError Unit)).run before = (.ok (), ready) →
    (FileSystem.canonical f : StateM σ Path).run ready = (place, there) →
    s.watches.keyOf? place = none →
    (Notifier.subscribe place : StateM σ (Except WatchError Unit)).run there = (.ok (), noted) →
    (s.typed "watch" f c before).1.1 = watching f k :: (s.typed "transpose" f c before).1.1 ∧
      files (s.typed "watch" f c before).2 = files (s.typed "transpose" f c before).2
  /-- If the notifier refuses the file, the line says why and leaves the files as they are. -/
  refused : ∀ e place ready there noted,
    (Notifier.start : StateM σ (Except WatchError Unit)).run before = (.ok (), ready) →
    (FileSystem.canonical f : StateM σ Path).run ready = (place, there) →
    s.watches.keyOf? place = none →
    (Notifier.subscribe place : StateM σ (Except WatchError Unit)).run there = (.error e, noted) →
    (s.typed "watch" f c before).1.1 = [Session.refused "watch" f e] ∧
      files (s.typed "watch" f c before).2 = files before
  /-- If there is no notifier, so too. -/
  notReady : ∀ e ready,
    (Notifier.start : StateM σ (Except WatchError Unit)).run before = (.error e, ready) →
    (s.typed "watch" f c before).1.1 = [Session.notReady e] ∧
      files (s.typed "watch" f c before).2 = files before

section

variable [FilesApart σ]

/-- To ask a notifier changes no file. -/
theorem files_of_subscribe {f place : Path} {answer : Except WatchError Unit}
    {before ready there noted : σ}
    (hstart : (Notifier.start : StateM σ (Except WatchError Unit)).run before = (.ok (), ready))
    (hplace : (FileSystem.canonical f : StateM σ Path).run ready = (place, there))
    (hnoted : (Notifier.subscribe place : StateM σ (Except WatchError Unit)).run there =
      (answer, noted)) : files noted = files before := by
  have hready := FilesApart.keeps_start before
  have hthere := KeepsFiles.canonical f ready
  have hafter := FilesApart.keeps_subscribe place there
  rw [hstart] at hready
  rw [hplace] at hthere
  rw [hnoted] at hafter
  exact hafter.trans (hthere.trans hready)

/-- **The three ways agree on every computer**, with the suffix that a session has in the
settings. -/
theorem waysAgree {f : Path} {c : Char} {k : Key} (hf : PlainName f) (hc : k.Spelt c) {s : Session}
    (hopen : s.ended = false) {configPath : Path} {before : σ}
    (hsuffix : ((Config.loadOrStandard configPath : StateM σ Config).run before).1.outputSuffix =
      s.context.config.outputSuffix) : s.WaysAgree configPath f c k before := by
  have htranspose : ("transpose", Verb.transpose) ∈ Command.verbs := by decide
  have hwatch : ("watch", Verb.watch) ∈ Command.verbs := by decide
  let transposed := (SheetFile.transpose f s.context.config.outputSuffix k :
    StateM σ (Except Failure Outcome)).run
  have htyped : s.typed "transpose" f c before =
      ((messages (Command.reported (transposed before).1), s), (transposed before).2) := by
    rw [typed, step_transpose_line hopen (callsFor_lineFor htranspose hf hc _), run_bind,
      transpose_eq]
    rfl
  have hwatched : s.typed "watch" f c before =
      (s.watch f k : StateM σ (List Message × Session)).run before := by
    rw [typed, step_watch_line hopen (callsFor_lineFor hwatch hf hc _)]
  -- what is done before changes no file, so the transposition goes as it does at once
  have htransposed : ∀ after, files after = files before →
      (transposed after).1 = (transposed before).1 ∧
        files (transposed after).2 = files (transposed before).2 := fun after =>
    OnFiles.composes.transpose f s.context.config.outputSuffix k after before
  constructor
  case command =>
    let loaded := ((Config.loadOrStandard configPath : StateM σ Config).run before).2
    obtain ⟨hsame, hleft⟩ := htransposed loaded (KeepsFiles.loadOrStandard configPath before)
    refine ⟨Ending.reported (transposed loaded).1, (transposed loaded).2, ?_, ?_, ?_⟩
    · rw [Program.start_file_key hf hc, run_bind, hsuffix]
      rfl
    · rw [htyped, hsame]
      exact Ending.tells_reported _
    · rw [htyped]
      exact hleft
  case followed =>
    intro place ready there noted hstart hplace hnone hnoted
    obtain ⟨hsame, hleft⟩ := htransposed noted (files_of_subscribe hstart hplace hnoted)
    rw [hwatched, htyped, run_watch_of_followed hstart hplace hnone hnoted, transpose_eq, run_bind]
    refine ⟨?_, hleft⟩
    show watching f k :: messages (Command.reported (transposed noted).1) = _
    rw [hsame]
  case refused =>
    intro e place ready there noted hstart hplace hnone hnoted
    rw [hwatched, run_watch_of_refused hstart hplace hnone hnoted]
    exact ⟨rfl, files_of_subscribe hstart hplace hnoted⟩
  case notReady =>
    intro e ready hstart
    have hready := FilesApart.keeps_start before
    rw [hstart] at hready
    rw [hwatched, run_watch_of_not_ready hstart]
    exact ⟨rfl, hready⟩

end

end Session

/-! ## On a host -/

namespace HostedSession

open Session

/-- **The three ways agree**: on every computer, beside every session that is open, and with the
suffix that it has in the settings. On a host, moreover, and whatever was done before, a file can be
watched that is there, has not too long an absolute path, and is not watched. -/
theorem three_ways {f : Path} {c : Char} {k : Key} (hf : PlainName f) (hc : k.Spelt c) :
    (∀ {σ : Type} [FileSystem (StateM σ)] [Notifier (StateM σ)] [HasFiles σ] [FilesApart σ]
      (s : Session) (configPath : Path) (before : σ), s.ended = false →
      ((Config.loadOrStandard configPath : StateM σ Config).run before).1.outputSuffix =
        s.context.config.outputSuffix → s.WaysAgree configPath f c k before) ∧
    ∀ {disk : Disk} (_ : disk.Sound) (context : Context) (as : List Action),
      let x := ((new disk context).play as).2
      let loaded := ((Config.loadOrStandard context.configPath : StateM Host Config).run x.host).1
      x.session.ended = false → loaded.outputSuffix = x.session.context.config.outputSuffix →
        let command :=
          (Program.start [f, "-k", c.toString] context.configPath : StateM Host Start).run x.host
        let typed := x.act (.line (lineFor "transpose" f c))
        let watched := x.act (.line (lineFor "watch" f c))
        (∃ ending : Ending, command.1 = .ended ending ∧ ending.Tells typed.1) ∧
        command.2.disk = typed.2.host.disk ∧
        ∀ l, x.host.disk.canonical? f = some l → l.path.utf8ByteSize < 4096 →
          x.session.watches.keyOf? l.path = none →
            watched.1 = watching f k :: typed.1 ∧ watched.2.host.disk = typed.2.host.disk := by
  refine ⟨fun s configPath before hopen hsuffix => waysAgree hf hc hopen hsuffix, ?_⟩
  intro disk hd context as x loaded hopen hsuffix command typed watched
  have hx : x.Tracks := (tracks_new hd context).play as
  have hways : x.session.WaysAgree context.configPath f c k x.host := waysAgree hf hc hopen hsuffix
  obtain ⟨ending, after, hcommand, htells, hfiles⟩ := hways.command
  have hrun : command = (.ended ending, after) := hcommand
  rw [hrun]
  refine ⟨⟨ending, rfl, htells⟩, hfiles, fun l hl hshort hnone => ?_⟩
  obtain ⟨n, hn⟩ := Option.isSome_iff_exists.mp (Disk.canonical?_eq_some_iff.mp hl).2
  have hplace : (FileSystem.canonical f : StateM Host Path).run x.host = (l.path, x.host) := by
    rw [Host.run_canonical, Host.canonical_eq_path hl]
  have hnoted : (Notifier.subscribe l.path : StateM Host (Except WatchError Unit)).run x.host =
      (.ok (), { x.host with subscribed := l :: x.host.subscribed }) := by
    rw [Host.run_subscribe, Host.subscribe, hx.sound.lookup_path_of_lt hn hshort]
  exact hways.followed l.path x.host x.host _ rfl hplace hnone hnoted

theorem three_ways_two_words :
    let disk : Disk := ⟨[(["my song.txt"], .file "Key: G\nG/D    Em\n".toUTF8)], []⟩
    let x := new disk ⟨.standard, "config"⟩
    let command :=
      (Program.start ["my song.txt", "-k", "d"] "config" : StateM Host Start).run x.host
    let typed := x.act (.line "transpose my song.txt d")
    let watched := x.act (.line "watch my song.txt d")
    x.session.WaysAgree "config" "my song.txt" 'd' .D x.host ∧
      (∃ ending : Ending, command.1 = .ended ending ∧ ending.Tells typed.1) ∧
      watched.1 = watching "my song.txt" .D :: typed.1 ∧
      command.2.disk.read "my song_transposed_D.txt" = .ok "D key\nD/A    Bm\n".toUTF8 ∧
      watched.2.host.disk.read "my song_transposed_D.txt" = .ok "D key\nD/A    Bm\n".toUTF8 := by
  intro disk x command typed watched
  have hd : disk.Sound := Disk.sound_single (by constructor <;> decide) _ _
  have hf : PlainName "my song.txt" := by constructor <;> decide
  obtain ⟨hways, hhost⟩ := three_ways (c := 'd') (k := .D) hf (.inr rfl)
  obtain ⟨htells, hsame, hwatch⟩ := hhost hd ⟨.standard, "config"⟩ [] rfl (by decide +kernel)
  obtain ⟨hwatched, hdisk⟩ := hwatch ["my song.txt"] (by decide +kernel) (by decide +kernel) rfl
  have hread : command.2.disk.read "my song_transposed_D.txt" =
      .ok "D key\nD/A    Bm\n".toUTF8 := by decide +kernel
  refine ⟨hways _ _ _ rfl (by decide +kernel), htells, hwatched, hread, ?_⟩
  have hdisk' : watched.2.host.disk = command.2.disk := hdisk.trans hsame.symm
  rw [hdisk', hread]

/-! ## Where the ways part -/

/-- **Where the ways part.** A backspace in the name of a file is used up at the prompt, so that the
line asks for another file than the command line; and a file whose absolute path is too long is
transposed by the command line, but not by the line that asks to watch it. -/
theorem ways_part :
    (let disk : Disk := ⟨[(["a\x08b.txt"], .file "Key: C\nC/G\n".toUTF8)], []⟩
      let x := new disk ⟨.standard, "config"⟩
      let command :=
        (Program.start ["a\x08b.txt", "-k", "D"] "config" : StateM Host Start).run x.host
      let typed := x.act (.line "transpose a\x08b.txt D")
      let summary := Outcome.summary ⟨"a\x08b_transposed_D.txt", .C, .D, ⟨2, 1, 1, 1⟩⟩
      command.1 = .ended (.success [summary]) ∧ typed.1 ≠ [summary] ∧
        command.2.disk.read "a\x08b_transposed_D.txt" = .ok "D key\nD/A\n".toUTF8 ∧
        typed.2.host.disk.read "a\x08b_transposed_D.txt" = .error .notFound) ∧
    (let x := new (.deep 255) ⟨.standard, "config"⟩
      let command :=
        (Program.start ["song.txt", "-k", "D"] "config" : StateM Host Start).run x.host
      let watched := x.act (.line "watch song.txt D")
      x.host.disk.read "song.txt" = .ok "Key: G\nG/D    Em\n".toUTF8 ∧
        command.2.disk.read "song_transposed_D.txt" = .ok "D key\nD/A    Bm\n".toUTF8 ∧
        watched.2.host.disk.read "song_transposed_D.txt" = .error .notFound) := by
  refine ⟨by decide +kernel, ?_⟩
  intro x command watched
  have hx : x.Tracks := tracks_new (Disk.sound_deep (by decide) (by decide)) _
  have hc : CallsFor x.session.context.config "watch song.txt D" .watch "song.txt" .D := by
    refine ⟨"song.txt D", "", ?_, by decide +kernel⟩
    unfold Calls
    decide +kernel
  have hl : x.host.disk.canonical? "song.txt" = some (Disk.deepDirectory 255 ++ ["song.txt"]) := by
    decide +kernel
  have hlong : 4096 ≤ (Location.path (Disk.deepDirectory 255 ++ ["song.txt"])).utf8ByteSize := by
    rw [Disk.utf8ByteSize_path_deep]
    decide
  obtain ⟨e, hrefused⟩ := hx.act_watch_of_long rfl hc hl hlong
  have hwatched : watched = ([refused "watch" "song.txt" e], x) := hrefused
  have hnone : x.host.disk.read "song_transposed_D.txt" = .error .notFound := by decide +kernel
  rw [hwatched]
  exact ⟨by decide +kernel, by decide +kernel, hnone⟩

end HostedSession

end ChordSheet
