import ChordSheet.Proofs.Composition
import ChordSheet.Proofs.SheetFiles
import ChordSheet.Proofs.Siblings

/-!
# What commands do to a host

A command works on the files of a host alone: what is subscribed for neither counts nor changes, and
the disk grows. In particular the transposition of a sheet is a step from disk to disk, and two
spellings of the path of a sheet make the same step.

* `FileWork` : computations that work on files alone.
* `FileWork.composes` : so every command is one.
* `Disk.transposed_eq_of_spells` : spellings of one path make the same step.
-/

set_option autoImplicit false

namespace ChordSheet

/-! ## Work on files alone -/

/-- A computation on a host for which only the disk counts, and which only lets the disk grow. -/
def FileWork {α : Type} (x : StateM Host α) : Prop :=
  ∃ f : Disk → α × Disk, (∀ h : Host, x.run h = ((f h.disk).1, { h with disk := (f h.disk).2 })) ∧
    ∀ d : Disk, d.Grows (f d).2

namespace FileWork

variable {α β : Type}

theorem pure (a : α) : FileWork (Pure.pure a : StateM Host α) :=
  ⟨fun d => (a, d), fun _ => rfl, Disk.Grows.refl⟩

theorem bind {x : StateM Host α} {y : α → StateM Host β} (hx : FileWork x)
    (hy : ∀ a, FileWork (y a)) : FileWork (x >>= y) := by
  obtain ⟨f, hf, hgrows⟩ := hx
  choose g hg hgrows' using hy
  refine ⟨fun d => g (f d).1 (f d).2, ?_, fun d => (hgrows d).trans (hgrows' _ _)⟩
  intro h
  rw [run_bind, hf, hg]

theorem read (p : Path) : FileWork (FileSystem.read p : StateM Host (Except FileError ByteArray)) :=
  ⟨fun d => (d.read p, d), fun _ => rfl, Disk.Grows.refl⟩

theorem write (p : Path) (content : ByteArray) :
    FileWork (FileSystem.write p content : StateM Host (Except FileError Unit)) := by
  refine ⟨fun d => ((d.write p content).map fun _ => (), (d.write p content).toOption.getD d),
    ?_, ?_⟩
  · intro h
    cases hw : h.disk.write p content <;> simp only [FileSystem.write, StateT.run, hw] <;> rfl
  · intro d
    show d.Grows ((d.write p content).toOption.getD d)
    cases hw : d.write p content with
    | error e => exact Disk.Grows.refl d
    | ok e => exact Disk.grows_write hw

theorem makeDirectories (p : Path) :
    FileWork (FileSystem.makeDirectories p : StateM Host (Except FileError Unit)) :=
  ⟨fun d => d.makeDirectories p, fun _ => rfl, fun d => d.grows_makeDirectories p⟩

theorem composes : FileSystem.Composes (m := StateM Host) fun _ => FileWork :=
  ⟨pure, bind, read, write, makeDirectories⟩

end FileWork

/-! ## Transposing as a step from disk to disk -/

namespace Disk

variable {d : Disk} {p q : Path} {suffix : String} {key : Key}

/-- The disk after a sheet was transposed, if it could be. -/
def transposed (d : Disk) (p : Path) (suffix : String) (key : Key) : Disk :=
  ((SheetFile.transpose p suffix key : StateM Host (Except Failure Outcome)).run ⟨d, []⟩).2.disk

/-- What comes of the transposition of a sheet. -/
def transposition (d : Disk) (p : Path) (suffix : String) (key : Key) : Except Failure Outcome :=
  ((SheetFile.transpose p suffix key : StateM Host (Except Failure Outcome)).run ⟨d, []⟩).1

theorem run_transpose_eq (h : Host) (p : Path) (suffix : String) (key : Key) :
    (SheetFile.transpose p suffix key : StateM Host (Except Failure Outcome)).run h =
      (h.disk.transposition p suffix key, { h with disk := h.disk.transposed p suffix key }) := by
  obtain ⟨f, hf, _⟩ := FileWork.composes.transpose p suffix key
  rw [transposition, transposed, hf, hf]

/-- A transposition that fails changes nothing. -/
theorem transposed_of_error {f : Failure} (h : d.transposition p suffix key = .error f) :
    d.transposed p suffix key = d := by
  have hrun := run_transpose_eq ⟨d, []⟩ p suffix key
  rw [h] at hrun
  exact congrArg Host.disk (SheetFile.run_transpose_of_error hrun)

/-- A transposition is not written if its path is too long. -/
theorem transposed_of_long (h : 4096 ≤ (Path.output p suffix key).utf8ByteSize) :
    d.transposed p suffix key = d := by
  have hrun := run_transpose_eq ⟨d, []⟩ p suffix key
  cases ht : d.transposition p suffix key with
  | error f => exact transposed_of_error ht
  | ok o =>
    rw [ht] at hrun
    obtain ⟨_, _, -, -, -, hholds, -⟩ := SheetFile.run_transpose_of_ok hrun
    obtain ⟨l, hl⟩ := read_eq_ok_iff.mp (Host.holds_iff.mp hholds)
    exact absurd (utf8ByteSize_lt_of_lookup hl) (Nat.not_lt.mpr h)

theorem grows_transposed (d : Disk) (p : Path) (suffix : String) (key : Key) :
    d.Grows (d.transposed p suffix key) := by
  obtain ⟨f, hf, hgrows⟩ := FileWork.composes.transpose p suffix key
  rw [transposed, hf]
  exact hgrows d

theorem run_read (d : Disk) (p : Path) (subscribed : List Location) :
    (FileSystem.read p : StateM Host (Except FileError ByteArray)).run ⟨d, subscribed⟩ =
      (d.read p, ⟨d, subscribed⟩) := rfl

/-- What cannot be read is not transposed. -/
theorem transposed_of_read_error {e : FileError} (h : d.read p = .error e) (suffix : String)
    (key : Key) : d.transposed p suffix key = d := by
  rw [transposed, SheetFile.transpose, run_bind, SheetFile.readLines, run_bind,
    FileSystem.readText, run_bind, run_read, h]
  rfl

theorem run_write (h : Host) (p : Path) (content : ByteArray) :
    (FileSystem.write p content : StateM Host (Except FileError Unit)).run h =
      match h.disk.write p content with
      | .ok disk => (.ok (), { h with disk := disk })
      | .error e => (.error e, h) := rfl

/-- A directory is not transposed. -/
theorem transposed_of_directory {l : Location} (hp : d.canonical? p = some l)
    (hl : d.node? l = some .directory) (suffix : String) (key : Key) :
    d.transposed p suffix key = d := by
  cases hread : d.read p with
  | error e => exact transposed_of_read_error hread suffix key
  | ok content =>
    obtain ⟨k, hk⟩ := read_eq_ok_iff.mp hread
    rw [canonical?_of_lookup hk, Option.some.injEq] at hp
    subst hp
    rw [(lookup_eq_ok_iff.mp hk).2] at hl
    cases hl

/-- A transposition depends on what is read and on where the result is written. -/
theorem transposed_congr (hread : d.read p = d.read q)
    (hwrite : ∀ bytes, d.write (Path.output p suffix key) bytes =
      d.write (Path.output q suffix key) bytes) :
    d.transposed p suffix key = d.transposed q suffix key := by
  have hlines : (SheetFile.readLines p : StateM Host (Except FileError (List String))).run ⟨d, []⟩ =
      (SheetFile.readLines q : StateM Host (Except FileError (List String))).run ⟨d, []⟩ := by
    rw [SheetFile.readLines, SheetFile.readLines, run_bind, run_bind, FileSystem.readText,
      FileSystem.readText, run_bind, run_bind, run_read, run_read, hread]
  rw [transposed, transposed, SheetFile.transpose, SheetFile.transpose, run_bind, run_bind, hlines]
  obtain ⟨result, hresult, _⟩ := SheetFile.run_readLines q (⟨d, []⟩ : Host)
  rw [hresult]
  cases result with
  | error e => rfl
  | ok lines =>
    dsimp only
    cases Rendition.ofLines lines key with
    | error e => rfl
    | ok r =>
      dsimp only
      rw [run_bind, run_bind, SheetFile.writeLines, SheetFile.writeLines, FileSystem.writeText,
        FileSystem.writeText, run_write, run_write, hwrite]
      cases d.write (Path.output q suffix key) (Text.contentOf r.lines).toUTF8 <;> rfl

/-- Two paths that lead to one place. -/
def Spells (d : Disk) (p q : Path) : Prop := ∃ l, d.locate p = .ok l ∧ d.locate q = .ok l

/-- **Two spellings of a path are transposed alike** if neither of the two paths of the
transposition is too long, or both are. -/
theorem Sound.transposed_eq_of_spells (hd : d.Sound) (h : d.Spells p q)
    (hshort : (Path.output p suffix key).utf8ByteSize < 4096 ↔
      (Path.output q suffix key).utf8ByteSize < 4096) :
    d.transposed p suffix key = d.transposed q suffix key := by
  obtain ⟨l, hp, hq⟩ := h
  have hlookup : d.lookup p = d.lookup q := by rw [lookup, lookup, hp, hq]
  have hread : d.read p = d.read q := by rw [read, read, hlookup]
  cases hr : d.read p with
  | error e =>
    rw [transposed_of_read_error hr, transposed_of_read_error (hread ▸ hr)]
  | ok bytes =>
    obtain ⟨k, hk⟩ := read_eq_ok_iff.mp hr
    exact transposed_congr hread (hd.write_output_eq hk (hlookup ▸ hk) hshort)

end Disk

end ChordSheet
