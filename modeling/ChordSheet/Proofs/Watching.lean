import ChordSheet.HostedSession
import ChordSheet.Proofs.CalledLines
import ChordSheet.Proofs.FileWork

/-!
# Watching sheets

What a line does to a session that runs on a host: it watches a sheet, it stops watching one, or it
leaves both the table of watched sheets and the subscriptions as they are and works on files alone.
The answer to a line that is about watching depends on what its path leads to.

* `Session.run_change` : a change transposes a watched sheet again.
* `HostedSession.step_watch_line`, `HostedSession.step_unwatch_line` : lines about watching.
* `HostedSession.step_transpose_line` : lines that transpose a sheet.
* `HostedSession.step_line_eq` : what every other line does.
-/

set_option autoImplicit false

namespace ChordSheet

/-! ## Answers -/

namespace Command

theorem settled_transpose (c : Config) (argument : String) (h : Host) :
    ((transpose c argument : StateM Host Response).run h).1.Settled := by
  unfold transpose
  split
  · rw [transposeFile, run_bind]
    split <;> exact trivial
  · exact trivial

theorem settled_run {verb : Verb} (hwatch : verb ≠ .watch) (hunwatch : verb ≠ .unwatch)
    (argument : String) (context : Context) (h : Host) :
    ((run verb argument context : StateM Host (Response × Context)).run h).1.1.Settled := by
  cases verb with
  | watch => exact absurd rfl hwatch
  | unwatch => exact absurd rfl hunwatch
  | transpose => exact settled_transpose context.config argument h
  | scale =>
    show (scale argument).Settled
    unfold scale
    split
    · exact trivial
    · split <;> exact trivial
  | degree =>
    show (degree argument).Settled
    unfold degree
    split
    · exact trivial
    · dsimp only
      split
      · exact trivial
      · split <;> exact trivial
  | default =>
    rw [run]
    split
    · show (showDefault context.config).Settled
      unfold showDefault
      split <;> exact trivial
    · split
      · rw [setDefault, run_bind]
        dsimp only
        split <;> exact trivial
      · exact trivial
  | keys => exact trivial
  | help => exact trivial
  | leave => exact trivial

end Command

/-! ## Watching on a host -/

namespace Host

/-- The canonical path of what a path leads to, or the path as it is. -/
def canonical (h : Host) (p : Path) : Path := ((h.disk.canonical? p).map Location.path).getD p

/-- The host after a sheet was transposed, if it could be. -/
def transposed (h : Host) (p : Path) (suffix : String) (k : Key) : Host :=
  { h with disk := h.disk.transposed p suffix k }

theorem run_canonical (h : Host) (p : Path) :
    (FileSystem.canonical p : StateM Host Path).run h = (h.canonical p, h) := rfl

theorem run_subscribe (h : Host) (p : Path) :
    (Notifier.subscribe p : StateM Host (Except WatchError Unit)).run h = h.subscribe p := rfl

theorem run_unsubscribe (h : Host) (p : Path) :
    (Notifier.unsubscribe p : StateM Host (Except WatchError Unit)).run h = h.unsubscribe p := rfl

theorem canonical_eq_path {h : Host} {p : Path} {l : Location} (hp : h.disk.canonical? p = some l) :
    h.canonical p = l.path := by
  rw [canonical, hp]
  rfl

/-- What is found at a canonical path is the thing of which it is the canonical path. -/
theorem canonical_eq_of_lookup {h : Host} (hd : h.disk.Sound) {p : Path} {l : Location} {n : Node}
    (hl : h.disk.lookup (h.canonical p) = .ok (l, n)) :
    h.disk.canonical? p = some l ∧ h.canonical p = l.path := by
  cases hp : h.disk.canonical? p with
  | none =>
    have hself : h.canonical p = p := by rw [canonical, hp]; rfl
    rw [hself] at hl
    rw [Disk.canonical?_of_lookup hl] at hp
    cases hp
  | some k =>
    rw [canonical_eq_path hp] at hl ⊢
    obtain ⟨m, hm⟩ := Option.isSome_iff_exists.mp (Disk.canonical?_eq_some_iff.mp hp).2
    obtain rfl := hd.lookup_path hm hl
    exact ⟨rfl, rfl⟩

end Host

namespace Session

variable {s : Session} {p : Path} {k previous : Key} {h : Host}

/-- What a session says when a sheet was transposed, or could not be. -/
def told (s : Session) (h : Host) (p : Path) (k : Key) : List Message :=
  messages (Command.reported (h.disk.transposition p s.context.config.outputSuffix k))

theorem run_transpose (s : Session) (p : Path) (k : Key) (h : Host) :
    (s.transpose p k : StateM Host (List Message)).run h =
      (s.told h p k, h.transposed p s.context.config.outputSuffix k) := by
  rw [transpose_eq, run_bind, Disk.run_transpose_eq]
  rfl

/-- A change of a watched sheet transposes it; any other change goes unanswered. -/
theorem run_change (s : Session) (p : Path) (h : Host) :
    (s.change p : StateM Host (List Message)).run h =
      match s.watches.keyOf? (h.canonical p) with
      | none => ([], h)
      | some k =>
        (fileChanged p :: s.told h p k, h.transposed p s.context.config.outputSuffix k) := by
  have hkey : (s.watches.keyFor? p : StateM Host (Option Key)).run h =
      (s.watches.keyOf? (h.canonical p), h) := rfl
  rw [change, run_bind, hkey]
  cases s.watches.keyOf? (h.canonical p) with
  | none => rfl
  | some k =>
    dsimp only
    rw [run_bind, run_transpose]
    rfl

/-- A host has a notifier that is ready. -/
theorem run_watch (s : Session) (p : Path) (k : Key) (h : Host) :
    (s.watch p k : StateM Host (List Message × Session)).run h =
      (s.follow p k : StateM Host (List Message × Session)).run h := rfl

/-- A watched sheet gets another key, and is transposed. -/
theorem run_watch_of_some (hk : s.watches.keyOf? (h.canonical p) = some previous) :
    (s.watch p k : StateM Host (List Message × Session)).run h =
      ((rewatching p k previous :: s.told h p k,
        { s with watches := s.watches.set (h.canonical p) k }),
        h.transposed p s.context.config.outputSuffix k) := by
  have htable : (s.watches.watch p k : StateM Host _).run h =
      ((.ok (some previous), s.watches.set (h.canonical p) k), h) := by
    rw [WatchTable.watch, run_bind, Host.run_canonical, hk]
    rfl
  rw [run_watch, follow, run_bind, htable]
  dsimp only
  rw [run_bind, run_transpose]
  rfl

/-- A thing that was not watched is subscribed for, and is transposed. -/
theorem run_watch_of_lookup {l : Location} {n : Node}
    (hk : s.watches.keyOf? (h.canonical p) = none)
    (hl : h.disk.lookup (h.canonical p) = .ok (l, n)) :
    (s.watch p k : StateM Host (List Message × Session)).run h =
      ((watching p k :: s.told h p k, { s with watches := s.watches.set (h.canonical p) k }),
        { h.transposed p s.context.config.outputSuffix k with
          subscribed := l :: h.subscribed }) := by
  have hsubscribe : h.subscribe (h.canonical p) =
      (.ok (), { h with subscribed := l :: h.subscribed }) := by
    rw [Host.subscribe, hl]
  have htable : (s.watches.watch p k : StateM Host _).run h =
      ((.ok none, s.watches.set (h.canonical p) k),
        { h with subscribed := l :: h.subscribed }) := by
    rw [WatchTable.watch, run_bind, Host.run_canonical, hk]
    dsimp only
    rw [run_bind, Host.run_subscribe, hsubscribe]
    rfl
  rw [run_watch, follow, run_bind, htable]
  dsimp only
  rw [run_bind, run_transpose]
  rfl

/-- What is not there is not watched. -/
theorem run_watch_of_error {e : FileError} (hk : s.watches.keyOf? (h.canonical p) = none)
    (hl : h.disk.lookup (h.canonical p) = .error e) :
    (s.watch p k : StateM Host (List Message × Session)).run h =
      (([refused "watch" p ⟨.ofFileError e, some (h.absolute (h.canonical p))⟩], s), h) := by
  have hsubscribe : h.subscribe (h.canonical p) =
      (.error ⟨.ofFileError e, some (h.absolute (h.canonical p))⟩, h) := by
    rw [Host.subscribe, hl]
  have htable : (s.watches.watch p k : StateM Host _).run h =
      ((.error ⟨.ofFileError e, some (h.absolute (h.canonical p))⟩, s.watches), h) := by
    rw [WatchTable.watch, run_bind, Host.run_canonical, hk]
    dsimp only
    rw [run_bind, Host.run_subscribe, hsubscribe]
    rfl
  rw [run_watch, follow, run_bind, htable]
  rfl

theorem run_unwatch_of_none (hk : s.watches.keyOf? (h.canonical p) = none) :
    (s.unwatch p : StateM Host (List Message × Session)).run h = (([notWatched p], s), h) := by
  have htable : (s.watches.unwatch p : StateM Host _).run h = ((.ok none, s.watches), h) := by
    rw [WatchTable.unwatch, run_bind, Host.run_canonical, hk]
    rfl
  rw [unwatch, run_bind, htable]
  rfl

/-- A watched sheet is taken off the table, and its subscription back. -/
theorem run_unwatch_of_some {after : Host}
    (hk : s.watches.keyOf? (h.canonical p) = some previous)
    (hunsubscribe : h.unsubscribe (h.canonical p) = (.ok (), after)) :
    (s.unwatch p : StateM Host (List Message × Session)).run h =
      (([unwatched p], { s with watches := s.watches.erase (h.canonical p) }), after) := by
  have htable : (s.watches.unwatch p : StateM Host _).run h =
      ((.ok (some previous), s.watches.erase (h.canonical p)), after) := by
    rw [WatchTable.unwatch, run_bind, Host.run_canonical, hk]
    dsimp only
    rw [run_bind, Host.run_unsubscribe, hunsubscribe]
    rfl
  rw [unwatch, run_bind, htable]
  rfl

end Session

/-- A line that asks neither to watch nor to unwatch is answered at once. -/
theorem Session.settled_of_not_watch {context : Context} {text argument : String} {verb : Verb}
    (hwatch : ∀ p k, ¬ CallsFor context.config text .watch p k)
    (hunwatch : ∀ argument, ¬ Calls text .unwatch argument) (hc : Calls text verb argument)
    (h : Host) :
    ((Command.run verb argument context : StateM Host (Response × Context)).run h).1.1.Settled := by
  by_cases hv : verb = .watch
  · subst hv
    show (Command.watch context.config argument).Settled
    unfold Command.watch
    split
    · rename_i p k hargument
      exact hwatch p k ⟨argument, _, hc, hargument⟩
    · exact trivial
  · refine Command.settled_run hv ?_ argument context h
    rintro rfl
    exact hunwatch argument hc

/-! ## Lines that are typed on a host -/

namespace HostedSession

open Session

variable {x y : HostedSession} {text argument : String} {verb : Verb} {p : Path} {k : Key}
  {l : Location}

/-- The session after a sheet was transposed, if it could be. -/
def transposed (x : HostedSession) (p : Path) (k : Key) : HostedSession :=
  { x with host := x.host.transposed p x.session.context.config.outputSuffix k }

theorem step_of_ended (hx : x.session.ended = true) (e : Event) : x.step e = ([], x) := by
  rw [step, Session.step_of_ended hx]
  rfl

theorem step_changed (hx : x.session.ended = false) (p : Path) :
    x.step (.changed p) =
      match x.session.watches.keyOf? (x.host.canonical p) with
      | none => ([], x)
      | some k => (fileChanged p :: x.session.told x.host p k, x.transposed p k) := by
  have hstep : (x.session.step (.changed p) : StateM Host (List Message × Session)) = (do
      return (← x.session.change p, x.session)) := by
    rw [Session.step, if_neg (by simp [hx])]
  rw [step, hstep, run_bind, run_change]
  cases x.session.watches.keyOf? (x.host.canonical p) <;> rfl

/-- A line that calls for a transposition. -/
theorem step_transpose_line (hx : x.session.ended = false)
    (hc : CallsFor x.session.context.config text .transpose p k) :
    x.step (.line text) = (x.session.told x.host p k, x.transposed p k) := by
  rw [step, Session.step_transpose_line hx hc, run_bind, run_transpose]
  rfl

/-- Acts on a response. -/
def respond (x : HostedSession) (r : Response) : List Message × HostedSession :=
  let ((output, session), host) := (x.session.respond r : StateM Host _).run x.host
  (output, ⟨host, session⟩)

theorem respond_of_run {r : Response} {output : List Message} {s : Session} {h : Host}
    (hrun : (x.session.respond r : StateM Host (List Message × Session)).run x.host =
      ((output, s), h)) : x.respond r = (output, ⟨h, s⟩) := by
  rw [respond, hrun]

/-- A line whose command only says what is to be done. -/
theorem step_line_of_response (hx : x.session.ended = false) (hc : Calls text verb argument)
    {r : Response} (hrun : (Command.run verb argument x.session.context :
      StateM Host (Response × Context)) = pure (r, x.session.context)) :
    x.step (.line text) = x.respond r := by
  rw [step, Session.step_line_of_response hx hc hrun]
  rfl

/-- A line that asks to watch a sheet. -/
theorem step_watch_line (hx : x.session.ended = false)
    (hc : CallsFor x.session.context.config text .watch p k) :
    x.step (.line text) = x.respond (.watch p k) := by
  rw [step, Session.step_watch_line hx hc]
  rfl

/-- A line that asks to watch a sheet no longer. -/
theorem step_unwatch_line (hx : x.session.ended = false) (hc : Calls text .unwatch p)
    (hne : p ≠ "") : x.step (.line text) = x.respond (.unwatch p) := by
  refine step_line_of_response hx hc ?_
  rw [Command.run, Command.unwatch, if_neg hne]

/-- A line that asks to watch nothing no longer. -/
theorem step_unwatch_nothing (hx : x.session.ended = false) (hc : Calls text .unwatch "") :
    x.step (.line text) = (messages (.error (.usage "unwatch <file>")), x) := by
  have hrun : (Command.run .unwatch "" x.session.context : StateM Host (Response × Context)) =
      pure (.error (.usage "unwatch <file>"), x.session.context) := rfl
  have hsettled : (Response.error (.usage "unwatch <file>")).Settled := trivial
  rw [step_line_of_response hx hc hrun, respond, respond_of_settled hsettled, run_pure]
  simp

/-- **Any other line works on files alone**, whatever is watched. -/
theorem step_line_eq {context : Context}
    (hwatch : ∀ p k, ¬ CallsFor context.config text .watch p k)
    (hunwatch : ∀ argument, ¬ Calls text .unwatch argument) (d : Disk) :
    ∃ (e : Disk) (context' : Context) (ended : Bool), d.Grows e ∧ ∀ subscribed watches,
      (step ⟨⟨d, subscribed⟩, ⟨context, watches, false⟩⟩ (.line text)).2 =
        ⟨⟨e, subscribed⟩, ⟨context', watches, ended⟩⟩ := by
  by_cases hc : ∃ verb argument, Calls text verb argument
  · obtain ⟨verb, argument, hc⟩ := hc
    obtain ⟨f, hf, hgrows⟩ := FileWork.composes.run verb argument context
    have hsettled : (f d).1.1.Settled := by
      have hrun := settled_of_not_watch hwatch hunwatch hc ⟨d, []⟩
      rw [hf] at hrun
      exact hrun
    refine ⟨(f d).2, (f d).1.2, decide ((f d).1.1 = .leave), hgrows d, ?_⟩
    intro subscribed watches
    have hrun : ((⟨context, watches, false⟩ : Session).line text :
        StateM Host (List Message × Session)).run ⟨d, subscribed⟩ =
          ((messages (f d).1.1, ⟨(f d).1.2, watches, decide ((f d).1.1 = .leave)⟩),
            ⟨(f d).2, subscribed⟩) := by
      rw [line_of_calls hc, run_bind, hf]
      dsimp only
      rw [respond_of_settled hsettled, run_pure]
      simp
    rw [step, step_line rfl, hrun]
  · refine ⟨d, context, false, Disk.Grows.refl d, ?_⟩
    intro subscribed watches
    obtain ⟨output, hline⟩ := line_of_not_calls (m := StateM Host) (s := ⟨context, watches, false⟩)
      fun verb argument h => hc ⟨verb, argument, h⟩
    rw [step, step_line rfl, hline]
    rfl

end HostedSession

end ChordSheet
