import Mathlib.Logic.Function.Basic
import ChordSheet.Proofs.Tracking
import ChordSheet.Proofs.TypedAgain

/-!
# Plain sessions

A *plain* session stands for a session in which sheets are watched, and watches no file itself.
Where a line asks to watch a file, the plain session transposes it; lines that ask to unwatch are
dropped; and after an append to a file that is watched at that moment, the plain session transposes
it to the key with which it is watched then. It does so too where the notifier tells of any other
change of such a file, as it does when the session itself wrote the file. What is watched is read
off the lines: a record of the latest line about each file. The plain session may name a sheet by
any path that leads to it.

Two lengths count. A file whose absolute path has 4096 bytes or more is not watched. And a sheet may
be named by another path only if the paths of the transposition are short enough by both names or
by neither.

* `HostedSession.Plain` : what a plain session does in place of some actions.
* `HostedSession.exists_plain` : there always is a plain session.
* `HostedSession.Transposes.perform_eq` : it does not matter by which path a sheet is transposed.
-/

set_option autoImplicit false

namespace ChordSheet

/-- What the user of a plain session does: an action, or the transposition of a sheet whose path
need not be one that can be typed. -/
inductive PlainAction where
  | action (a : Action)
  | transpose (path : Path) (key : Key)

namespace HostedSession

open Session

variable {x : HostedSession} {p : Path} {k : Key}

/-- The session after a sheet was transposed, as the command `transpose` does it. -/
def transpose (x : HostedSession) (p : Path) (k : Key) : HostedSession :=
  if x.session.ended then x
  else
    { x with host := ((x.session.transpose p k : StateM Host (List Message)).run x.host).2 }

/-- The session after one thing was done. -/
def perform (x : HostedSession) : PlainAction → HostedSession
  | .action a => (x.act a).2
  | .transpose p k => x.transpose p k

/-- The session after some things were done. -/
def performAll (x : HostedSession) (bs : List PlainAction) : HostedSession := bs.foldl perform x

/-! ## Plain sessions -/

/-- A path by which the sheet at a path can be transposed: this path, or another that leads to the
sheet and by which the path of the transposition is short enough if it is by this one, and not if it
is not. -/
def Names (x : HostedSession) (p : Path) (k : Key) (q : Path) : Prop :=
  let suffix := x.session.context.config.outputSuffix
  q = p ∨ x.host.disk.Spells p q ∧
    ((Path.output p suffix k).utf8ByteSize < 4096 ↔ (Path.output q suffix k).utf8ByteSize < 4096)

/-- An action that transposes the sheet at a path to a key, by this or another spelling of the
path. -/
inductive Transposes (x : HostedSession) (p : Path) (k : Key) : PlainAction → Prop where
  | line {text : String} {q : Path} :
      x.Names p k q → CallsFor x.session.context.config text .transpose q k →
        Transposes x p k (.action (.line text))
  | direct {q : Path} : x.Names p k q → Transposes x p k (.transpose q k)

/-- A path names a file. -/
def NamesFile (d : Disk) (p : Path) (l : Location) : Prop :=
  d.canonical? p = some l ∧ ∃ content, d.node? l = some (.file content)

/-- Which files are watched, and with which keys. -/
abbrev Record := Location → Option Key

/-- The record when what a path leads to is watched no longer. -/
def Record.forget (w : Record) : Option Location → Record
  | some l => Function.update w l none
  | none => w

/-- What a plain session does in place of one action, and the record after it. A session that is
over takes no lines, so that only the appends count from then on. -/
inductive PlainStep (x : HostedSession) (w : Record) :
    Action → List PlainAction → Record → Prop where
  /-- A line that asks to watch a file gives way to a transposition, unless the absolute path of the
  file is too long. -/
  | watch {text : String} {p : Path} {k : Key} {l : Location} {b : PlainAction} :
      CallsFor x.session.context.config text .watch p k → NamesFile x.host.disk p l →
        l.path.utf8ByteSize < 4096 → Transposes x p k b →
          PlainStep x w (.line text) [b] (Function.update w l (some k))
  /-- A line that asks to unwatch is dropped. -/
  | unwatch {text : String} {p : Path} :
      Calls text .unwatch p → PlainStep x w (.line text) [] (w.forget (x.host.disk.canonical? p))
  /-- Any other line is kept. -/
  | line {text : String} :
      (∀ p k l, CallsFor x.session.context.config text .watch p k → NamesFile x.host.disk p l →
        4096 ≤ l.path.utf8ByteSize) →
        (∀ p, ¬ Calls text .unwatch p) → PlainStep x w (.line text) [.action (.line text)] w
  /-- An append to a file that is watched is followed by a transposition. -/
  | change {p : Path} {bytes content : ByteArray} {l : Location} {k : Key} {b : PlainAction} :
      x.host.disk.lookup p = .ok (l, .file content) → w l = some k → bytes.size ≠ 0 →
        Transposes (x.perform (.action (.append p bytes))) l.path k b →
          PlainStep x w (.append p bytes) [.action (.append p bytes), b] w
  /-- Any other append is kept. -/
  | append {p : Path} {bytes : ByteArray} :
      (∀ l content, x.host.disk.lookup p = .ok (l, .file content) →
        w l = none ∨ bytes.size = 0) →
        PlainStep x w (.append p bytes) [.action (.append p bytes)] w
  /-- Where a session is told of a change of a file that is watched, the file is transposed. -/
  | told {p : Path} {l : Location} {k : Key} {b : PlainAction} :
      NamesFile x.host.disk p l → w l = some k → Transposes x p k b →
        PlainStep x w (.told p) [b] w
  /-- Where it is told of any other change, nothing is done. -/
  | untold {p : Path} :
      (∀ l, NamesFile x.host.disk p l → w l = none) → PlainStep x w (.told p) [] w

/-- What a plain session does in place of some actions. -/
inductive Plain : HostedSession → Record → List Action → List PlainAction → Prop where
  | nil {x : HostedSession} {w : Record} : Plain x w [] []
  | cons {x : HostedSession} {w w' : Record} {a : Action} {as : List Action}
      {bs cs : List PlainAction} :
      PlainStep x w a bs w' → Plain (x.performAll bs) w' as cs → Plain x w (a :: as) (bs ++ cs)

theorem exists_plainStep (x : HostedSession) (w : Record) (a : Action) :
    ∃ bs w', PlainStep x w a bs w' := by
  cases a with
  | line text =>
    by_cases hwatch : ∃ p k l, CallsFor x.session.context.config text .watch p k ∧
        NamesFile x.host.disk p l ∧ l.path.utf8ByteSize < 4096
    · obtain ⟨p, k, l, hc, hl, hshort⟩ := hwatch
      obtain ⟨text', hc'⟩ := hc.exists_transpose
      exact ⟨_, _, .watch hc hl hshort (.line (.inl rfl) hc')⟩
    · by_cases hunwatch : ∃ p, Calls text .unwatch p
      · obtain ⟨p, hc⟩ := hunwatch
        exact ⟨_, _, .unwatch hc⟩
      · refine ⟨_, _, .line (fun p k l hc hl => ?_) (fun p hc => hunwatch ⟨p, hc⟩)⟩
        exact Nat.not_lt.mp fun hshort => hwatch ⟨p, k, l, hc, hl, hshort⟩
  | append p bytes =>
    by_cases hchange : ∃ l content k, x.host.disk.lookup p = .ok (l, .file content) ∧
        w l = some k ∧ bytes.size ≠ 0
    · obtain ⟨l, content, k, hl, hk, hne⟩ := hchange
      exact ⟨_, _, .change hl hk hne (.direct (.inl rfl))⟩
    · refine ⟨_, _, .append fun l content hl => ?_⟩
      by_contra hcon
      obtain ⟨hk, hne⟩ := not_or.mp hcon
      obtain ⟨k, hk⟩ := Option.ne_none_iff_exists'.mp hk
      exact hchange ⟨l, content, k, hl, hk, hne⟩
  | told p =>
    by_cases htold : ∃ l k, NamesFile x.host.disk p l ∧ w l = some k
    · obtain ⟨l, k, hl, hk⟩ := htold
      exact ⟨_, _, .told hl hk (.direct (.inl rfl))⟩
    · refine ⟨_, _, .untold fun l hl => ?_⟩
      rw [Option.eq_none_iff_forall_ne_some]
      exact fun k hk => htold ⟨l, k, hl, hk⟩

/-- There is a plain session for whatever the user does. -/
theorem exists_plain (x : HostedSession) (w : Record) (as : List Action) :
    ∃ bs, Plain x w as bs := by
  induction as generalizing x w with
  | nil => exact ⟨[], .nil⟩
  | cons a as ih =>
    obtain ⟨bs, w', hstep⟩ := exists_plainStep x w a
    obtain ⟨cs, hcs⟩ := ih (x.performAll bs) w'
    exact ⟨bs ++ cs, .cons hstep hcs⟩

/-! ## Transpositions by any path -/

theorem transpose_of_ended (hx : x.session.ended = true) (p : Path) (k : Key) :
    x.transpose p k = x := by
  rw [transpose, if_pos hx]

theorem transpose_eq (hx : x.session.ended = false) (p : Path) (k : Key) :
    x.transpose p k = x.transposed p k := by
  rw [transpose, if_neg (by simp [hx]), run_transpose]
  rfl

/-- A session that is over transposes nothing. -/
theorem Transposes.perform_of_ended {b : PlainAction} (h : Transposes x p k b)
    (hx : x.session.ended = true) : x.perform b = x := by
  cases h with
  | line _ _ => exact congrArg Prod.snd (step_of_ended hx _)
  | direct _ => exact transpose_of_ended hx _ _

/-- It does not matter by which path a sheet is transposed. -/
theorem Transposes.perform_eq {b : PlainAction} (h : Transposes x p k b)
    (hx : x.session.ended = false) (hd : x.host.disk.Sound) : x.perform b = x.transposed p k := by
  have hnames : ∀ {q}, x.Names p k q → x.transposed q k = x.transposed p k := by
    rintro q (rfl | ⟨hspells, hshort⟩)
    · rfl
    · rw [transposed, transposed, Host.transposed, Host.transposed,
        hd.transposed_eq_of_spells hspells hshort]
  cases h with
  | line hq hc => exact (congrArg Prod.snd (step_transpose_line hx hc)).trans (hnames hq)
  | direct hq => exact (transpose_eq hx _ _).trans (hnames hq)

end HostedSession

end ChordSheet
