import ChordSheet.Session

/-!
# What a line calls

A line that is typed calls a command with an argument, or calls nothing. What the session does then
can be said without saying on which computer it runs: it transposes a sheet, it watches one, or it
answers at once.

* `Session.Calls`, `Session.CallsFor` : what a typed line calls.
* `Session.step_transpose_line` : a line that transposes a sheet.
* `Session.step_watch_line` : a line that watches one.
-/

set_option autoImplicit false

namespace ChordSheet

variable {m : Type → Type} [Monad m] [FileSystem m]

/-- A response that asks for nothing but to be shown, or to leave. -/
def Response.Settled : Response → Prop
  | .watch _ _ => False
  | .unwatch _ => False
  | _ => True

namespace Command

/-- The answer when a sheet was transposed, or could not be. -/
def reported : Except Failure Outcome → Response
  | .ok outcome => .message outcome.summary
  | .error failure => .error (.failed failure.message)

theorem settled_reported (result : Except Failure Outcome) : (reported result).Settled := by
  cases result <;> exact trivial

theorem reported_ne_leave (result : Except Failure Outcome) : reported result ≠ .leave := by
  cases result <;> simp [reported]

theorem transposeFile_eq [LawfulMonad m] (c : Config) (p : Path) (k : Key) :
    (transposeFile c p k : m Response) = (do
      return reported (← SheetFile.transpose p c.outputSuffix k)) := by
  refine bind_congr fun result => ?_
  cases result <;> rfl

end Command

namespace Session

/-- A typed line calls a command with an argument. -/
def Calls (text : String) (verb : Verb) (argument : String) : Prop :=
  Command.registry.dispatch? (String.ofList (Text.trim (TypedLine.edited text.toList))) =
    some (verb, argument)

/-- A typed line calls a command for a path and a key, under some settings. -/
def CallsFor (c : Config) (text : String) (verb : Verb) (p : Path) (k : Key) : Prop :=
  ∃ argument form, Calls text verb argument ∧ Argument.pathAndKey c form argument = .ok (p, k)

/-- What a session says when a sheet was transposed, or could not be. -/
theorem transpose_eq [LawfulMonad m] (s : Session) (p : Path) (k : Key) :
    (s.transpose p k : m (List Message)) = (do
      return messages (Command.reported (←
        SheetFile.transpose p s.context.config.outputSuffix k))) := by
  rw [transpose, Command.transposeFile_eq, bind_assoc]
  exact bind_congr fun _ => pure_bind _ _

variable [Notifier m] {s : Session} {text argument : String} {verb : Verb} {p : Path} {k : Key}

theorem step_line (hopen : s.ended = false) (text : String) :
    (s.step (.line text) : m (List Message × Session)) = s.line text := by
  rw [step, if_neg (by simp [hopen])]

theorem line_of_calls (hc : Calls text verb argument) :
    (s.line text : m (List Message × Session)) = (do
      let (response, context) ← Command.run verb argument s.context
      { s with context := context }.respond response) := by
  have hblank : Command.registry.dispatch? (String.ofList []) = none := by decide
  unfold line
  unfold Calls at hc
  split
  · rename_i hnil
    rw [hnil, hblank] at hc
    cases hc
  · rw [Command.execute, hc]

/-- A line that calls nothing changes nothing. -/
theorem line_of_not_calls [LawfulMonad m] (hc : ∀ verb argument, ¬ Calls text verb argument) :
    ∃ output, (s.line text : m (List Message × Session)) = pure (output, s) := by
  unfold line
  split
  · exact ⟨[], rfl⟩
  · have hnone : Command.registry.dispatch?
        (String.ofList (Text.trim (TypedLine.edited text.toList))) = none := by
      rw [Option.eq_none_iff_forall_ne_some]
      rintro ⟨verb, argument⟩ he
      exact hc verb argument he
    rw [Command.execute, hnone]
    exact ⟨_, pure_bind _ _⟩

theorem respond_of_settled {r : Response} (hr : r.Settled) (s : Session) :
    (s.respond r : m (List Message × Session)) =
      pure (messages r, { s with ended := s.ended || decide (r = .leave) }) := by
  cases r with
  | watch p k => exact hr.elim
  | unwatch p => exact hr.elim
  | _ => simp [respond]

variable [LawfulMonad m]

/-- A line whose command only says what is to be done. -/
theorem step_line_of_response (hopen : s.ended = false) (hc : Calls text verb argument)
    {r : Response} (hrun : (Command.run verb argument s.context : m (Response × Context)) =
      pure (r, s.context)) :
    (s.step (.line text) : m (List Message × Session)) = s.respond r := by
  rw [step_line hopen, line_of_calls hc, hrun, pure_bind]

/-- A line that asks to watch a sheet. -/
theorem step_watch_line (hopen : s.ended = false) (hc : CallsFor s.context.config text .watch p k) :
    (s.step (.line text) : m (List Message × Session)) = s.watch p k := by
  obtain ⟨argument, form, hcalls, hargument⟩ := hc
  refine step_line_of_response (r := .watch p k) hopen hcalls ?_
  rw [Command.run, Command.watch, Argument.pathAndKey_form hargument]

/-- A line that asks to transpose a sheet. -/
theorem step_transpose_line (hopen : s.ended = false)
    (hc : CallsFor s.context.config text .transpose p k) :
    (s.step (.line text) : m (List Message × Session)) = (do
      return (← s.transpose p k, s)) := by
  obtain ⟨argument, form, hcalls, hargument⟩ := hc
  have hrun : (Command.run .transpose argument s.context : m (Response × Context)) = (do
      return (Command.reported (← SheetFile.transpose p s.context.config.outputSuffix k),
        s.context)) := by
    rw [Command.run, Command.transpose, Argument.pathAndKey_form hargument]
    dsimp only
    rw [Command.transposeFile_eq, bind_assoc]
    exact bind_congr fun _ => pure_bind _ _
  rw [step_line hopen, line_of_calls hcalls, hrun, transpose_eq, bind_assoc, bind_assoc]
  refine bind_congr fun result => ?_
  rw [pure_bind, pure_bind]
  dsimp only
  rw [respond_of_settled (Command.settled_reported result)]
  simp [Command.reported_ne_leave]

end Session

end ChordSheet
