import ChordSheet.Host
import ChordSheet.Session

/-!
# Sessions on a computer in memory

A session that runs on a host takes what the user does: lines are typed, and text is appended to
files by hand. When the host tells of a change, the session takes it at once. A computer also tells
of what the session itself writes to a thing that is watched; when that is and how often is up to
the computer, so it can be told of any change at any time.

* `play_append` : doing some things and then others is doing them all.
-/

set_option autoImplicit false

namespace ChordSheet

/-- What happens to a session on a host. -/
inductive Action where
  /-- A line is typed at the prompt. -/
  | line (text : String)
  /-- Bytes are appended to a file in one piece. -/
  | append (path : Path) (bytes : ByteArray)
  /-- The notifier tells of a change that nobody made by hand. -/
  | told (path : Path)

/-- A session and the host on which it runs. -/
structure HostedSession where
  /-- The computer. -/
  host : Host
  /-- The session at its prompt. -/
  session : Session

namespace HostedSession

/-- Takes one event. -/
def step (h : HostedSession) (e : Event) : List Message × HostedSession :=
  let ((output, session), host) := (h.session.step e : StateM Host _).run h.host
  (output, ⟨host, session⟩)

/-- Takes some events in order. -/
def steps (h : HostedSession) : List Event → List Message × HostedSession
  | [] => ([], h)
  | e :: es =>
    let (output, h) := h.step e
    let (more, h) := h.steps es
    (output ++ more, h)

/-- Does one thing. -/
def act (h : HostedSession) : Action → List Message × HostedSession
  | .line text => h.step (.line text)
  | .append path bytes =>
    let (changed, host) := h.host.append path bytes
    { h with host := host }.steps (changed.map .changed)
  | .told path => h.step (.changed path)

/-- Does some things in order. -/
def play (h : HostedSession) : List Action → List Message × HostedSession
  | [] => ([], h)
  | a :: as =>
    let (output, h) := h.act a
    let (more, h) := h.play as
    (output ++ more, h)

theorem steps_cons (h : HostedSession) (e : Event) (es : List Event) :
    h.steps (e :: es) =
      ((h.step e).1 ++ ((h.step e).2.steps es).1, ((h.step e).2.steps es).2) := rfl

theorem play_cons (h : HostedSession) (a : Action) (as : List Action) :
    h.play (a :: as) = ((h.act a).1 ++ ((h.act a).2.play as).1, ((h.act a).2.play as).2) := rfl

theorem play_append (h : HostedSession) (as bs : List Action) :
    h.play (as ++ bs) =
      ((h.play as).1 ++ ((h.play as).2.play bs).1, ((h.play as).2.play bs).2) := by
  induction as generalizing h with
  | nil => simp [play]
  | cons a as ih => simp [play, ih]

end HostedSession

end ChordSheet
