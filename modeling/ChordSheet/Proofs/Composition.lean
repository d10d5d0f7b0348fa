import ChordSheet.Command.Execute

/-!
# Commands are put together from operations on files

A command reads and writes files and makes directories, one after the other, and does nothing else
to a computer. So whatever is true of each of these operations, and of two computations in a row
when it is true of both, is true of every command.

* `FileSystem.Composes` : what lasts when computations are put together.
* `FileSystem.Composes.transpose` : it is true of the transposition of a file.
* `FileSystem.Composes.run` : it is true of every command.
-/

set_option autoImplicit false

namespace ChordSheet

variable {m : Type → Type} [Monad m] [FileSystem m]

/-- A property of computations that the operations on files have, and that lasts when computations
are put together. -/
structure FileSystem.Composes (P : (α : Type) → m α → Prop) : Prop where
  pure : ∀ {α : Type} (a : α), P α (Pure.pure a)
  bind : ∀ {α β : Type} {x : m α} {y : α → m β}, P α x → (∀ a, P β (y a)) → P β (x >>= y)
  read : ∀ p : Path, P _ (FileSystem.read p : m (Except FileError ByteArray))
  write : ∀ (p : Path) (content : ByteArray),
    P _ (FileSystem.write p content : m (Except FileError Unit))
  makeDirectories : ∀ p : Path, P _ (FileSystem.makeDirectories p : m (Except FileError Unit))

namespace FileSystem.Composes

variable {P : (α : Type) → m α → Prop}

theorem readText (h : Composes P) (p : Path) :
    P _ (FileSystem.readText p : m (Except FileError String)) := by
  refine h.bind (h.read p) fun result => ?_
  cases result with
  | error e => exact h.pure _
  | ok bytes =>
    dsimp only
    split <;> exact h.pure _

theorem readLines (h : Composes P) (p : Path) :
    P _ (SheetFile.readLines p : m (Except FileError (List String))) :=
  h.bind (h.readText p) fun _ => h.pure _

/-- **The transposition of a file is put together from a reading and a writing.** -/
theorem transpose (h : Composes P) (input : Path) (suffix : String) (target : Key) :
    P _ (SheetFile.transpose input suffix target : m (Except Failure Outcome)) := by
  refine h.bind (h.readLines input) fun result => ?_
  cases result with
  | error e => exact h.pure _
  | ok lines =>
    dsimp only
    split
    · exact h.pure _
    · refine h.bind (h.write _ _) fun written => ?_
      cases written <;> exact h.pure _

theorem save (h : Composes P) (c : Config) (p : Path) :
    P _ (c.save p : m (Except FileError Unit)) := by
  unfold Config.save
  split
  · exact h.write _ _
  · refine h.bind (h.makeDirectories _) fun made => ?_
    cases made with
    | error e => exact h.pure _
    | ok => exact h.write _ _

theorem transposeFile (h : Composes P) (c : Config) (path : Path) (key : Key) :
    P _ (Command.transposeFile c path key : m Response) := by
  refine h.bind (h.transpose _ _ _) fun result => ?_
  cases result <;> exact h.pure _

/-- **Every command is put together from operations on files.** -/
theorem run (h : Composes P) (verb : Verb) (argument : String) (context : Context) :
    P _ (Command.run verb argument context : m (Response × Context)) := by
  cases verb with
  | transpose =>
    refine h.bind ?_ fun _ => h.pure _
    unfold Command.transpose
    split
    · exact h.transposeFile _ _ _
    · exact h.pure _
  | default =>
    rw [Command.run]
    split
    · exact h.pure _
    · split
      · exact h.bind (h.save _ _) fun _ => h.pure _
      · exact h.pure _
  | _ => exact h.pure _

end FileSystem.Composes

end ChordSheet
