import ChordSheet.Proofs.Composition
import ChordSheet.Proofs.TornWrites

/-!
# What files alone decide

The state of a computer holds its files, with all that counts when they are read and written, and
other things besides, such as what its notifier follows. What comes of a command is decided by the
files alone, and so are the files that it leaves. To look at files changes none, and a notifier
changes none whatever it answers.

* `OnFiles` : computations for which files alone count.
* `OnFiles.composes` : so every command is one.
* `KeepsFiles` : computations that change no file.
-/

set_option autoImplicit false

namespace ChordSheet

/-- A computer has files. -/
class HasFiles (σ : Type) where
  /-- Files, with all that counts when they are read and written: who may read or write them, and
  how much room is left. -/
  Files : Type
  /-- The files of a computer. -/
  files : σ → Files

open HasFiles

section

variable {σ : Type} [HasFiles σ] {α β : Type}

/-- A computation for which files alone count: they decide what it answers, and what files it
leaves. -/
def OnFiles (x : StateM σ α) : Prop :=
  ∀ s t : σ, files s = files t →
    (x.run s).1 = (x.run t).1 ∧ files (x.run s).2 = files (x.run t).2

/-- A computation that changes no file. -/
def KeepsFiles (x : StateM σ α) : Prop := ∀ s : σ, files (x.run s).2 = files s

theorem OnFiles.pure (a : α) : OnFiles (Pure.pure a : StateM σ α) := fun _ _ h => ⟨rfl, h⟩

theorem OnFiles.bind {x : StateM σ α} {y : α → StateM σ β} (hx : OnFiles x)
    (hy : ∀ a, OnFiles (y a)) : OnFiles (x >>= y) := by
  intro s t h
  obtain ⟨hanswer, hfiles⟩ := hx s t h
  rw [run_bind, run_bind, hanswer]
  exact hy _ _ _ hfiles

theorem KeepsFiles.pure (a : α) : KeepsFiles (Pure.pure a : StateM σ α) := fun _ => rfl

theorem KeepsFiles.bind {x : StateM σ α} {y : α → StateM σ β} (hx : KeepsFiles x)
    (hy : ∀ a, KeepsFiles (y a)) : KeepsFiles (x >>= y) := by
  intro s
  rw [run_bind]
  exact (hy _ _).trans (hx s)

end

/-- A computer on which files are apart from everything else: they decide how reading and writing
go, and nothing but writing changes them. A notifier may refuse whatever it likes. -/
class FilesApart (σ : Type) [FileSystem (StateM σ)] [Notifier (StateM σ)] [HasFiles σ] :
    Prop where
  read : ∀ p : Path, OnFiles (FileSystem.read p : StateM σ (Except FileError ByteArray))
  write : ∀ (p : Path) (content : ByteArray),
    OnFiles (FileSystem.write p content : StateM σ (Except FileError Unit))
  makeDirectories : ∀ p : Path,
    OnFiles (FileSystem.makeDirectories p : StateM σ (Except FileError Unit))
  keeps_read : ∀ p : Path, KeepsFiles (FileSystem.read p : StateM σ (Except FileError ByteArray))
  keeps_canonical? : ∀ p : Path, KeepsFiles (FileSystem.canonical? p : StateM σ (Option Path))
  keeps_start : KeepsFiles (Notifier.start : StateM σ (Except WatchError Unit))
  keeps_subscribe : ∀ p : Path,
    KeepsFiles (Notifier.subscribe p : StateM σ (Except WatchError Unit))

section

variable {σ : Type} [FileSystem (StateM σ)] [Notifier (StateM σ)] [HasFiles σ] [FilesApart σ]

/-- **For every command, files alone count.** -/
theorem OnFiles.composes : FileSystem.Composes (m := StateM σ) fun _ => OnFiles :=
  ⟨OnFiles.pure, OnFiles.bind, FilesApart.read, FilesApart.write, FilesApart.makeDirectories⟩

theorem KeepsFiles.loadOrStandard (p : Path) :
    KeepsFiles (Config.loadOrStandard p : StateM σ Config) := by
  have hread : KeepsFiles (FileSystem.readText p : StateM σ (Except FileError String)) := by
    refine .bind (FilesApart.keeps_read p) fun result => ?_
    cases result with
    | error e => exact .pure _
    | ok bytes =>
      dsimp only
      split <;> exact .pure _
  exact .bind (.bind hread fun _ => .pure _) fun _ => .pure _

theorem KeepsFiles.canonical (p : Path) : KeepsFiles (FileSystem.canonical p : StateM σ Path) :=
  .bind (FilesApart.keeps_canonical? p) fun _ => .pure _

end

/-! ## Hosts -/

instance : HasFiles Host where
  Files := Disk
  files := Host.disk

instance : FilesApart Host where
  read p s t h := ⟨congrArg (Disk.read · p) h, h⟩
  write p content := by
    rintro ⟨d, subscribed⟩ ⟨e, subscribed'⟩ h
    obtain rfl : d = e := h
    simp only [FileSystem.write, StateT.run]
    split <;> exact ⟨rfl, rfl⟩
  makeDirectories p s t h :=
    ⟨congrArg (fun d => (d.makeDirectories p).1) h, congrArg (fun d => (d.makeDirectories p).2) h⟩
  keeps_read _ _ := rfl
  keeps_canonical? _ _ := rfl
  keeps_start _ := rfl
  keeps_subscribe p s := s.disk_subscribe p

instance : HasFiles CrampedHost where
  Files := Disk × Nat
  files h := (h.host.disk, h.room)

instance : FilesApart CrampedHost where
  read p s t h := ⟨congrArg (fun files => files.1.read p) h, h⟩
  write p content := by
    rintro ⟨⟨d, subscribed⟩, room⟩ ⟨⟨e, subscribed'⟩, room'⟩ h
    obtain ⟨rfl, rfl⟩ : d = e ∧ room = room' := Prod.mk.inj h
    simp only [FileSystem.write, StateT.run, CrampedHost.write]
    split <;> exact ⟨rfl, rfl⟩
  makeDirectories p := by
    rintro ⟨⟨d, subscribed⟩, room⟩ ⟨⟨e, subscribed'⟩, room'⟩ h
    obtain ⟨rfl, rfl⟩ : d = e ∧ room = room' := Prod.mk.inj h
    exact ⟨rfl, rfl⟩
  keeps_read _ _ := rfl
  keeps_canonical? _ _ := rfl
  keeps_start _ := rfl
  keeps_subscribe p s := by
    show ((s.host.subscribe p).2.disk, s.room) = (s.host.disk, s.room)
    rw [Host.disk_subscribe]

end ChordSheet
