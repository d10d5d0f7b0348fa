import ChordSheet.Proofs.CommandEffects

/-!
# A computer that runs out of room

On a cramped host there is room for so many bytes in a file and no more. A file is opened, and so
emptied, before the bytes are written one after the other, so a write that finds no room leaves the
first bytes of what it was to write. A cramped host keeps to the laws of files, and its writes are
torn.

* `CrampedHost.write` : what is left of a write for which there is no room.
* `CrampedHost.not_atomicFiles` : such a write has an effect though it fails.
-/

set_option autoImplicit false

namespace ChordSheet

/-- A host and the number of bytes for which there is room in a file. -/
structure CrampedHost where
  /-- The computer. -/
  host : Host
  /-- The room. -/
  room : Nat

namespace CrampedHost

/-- The cramped host with other files. -/
def withDisk (h : CrampedHost) (disk : Disk) : CrampedHost :=
  { h with host := { h.host with disk := disk } }

/-- Why a write breaks off. -/
def noRoom : FileError := .other "No space left on device (os error 28)"

/-- Opens a file and writes as many bytes as there is room for. -/
def write (h : CrampedHost) (p : Path) (content : ByteArray) :
    Except FileError Unit × CrampedHost :=
  match h.host.disk.write p (content.extract 0 h.room) with
  | .error e => (.error e, h)
  | .ok disk =>
    (if content.size ≤ h.room then .ok () else .error noRoom, h.withDisk disk)

instance : FileSystem (StateM CrampedHost) where
  read p := fun h => (h.host.disk.read p, h)
  write p content := fun h => h.write p content
  makeDirectories p := fun h =>
    let (result, disk) := h.host.disk.makeDirectories p
    (result, h.withDisk disk)
  canonical? p := fun h => ((h.host.disk.canonical? p).map Location.path, h)

instance : Notifier (StateM CrampedHost) where
  start := fun h => (.ok (), h)
  subscribe p := fun h =>
    let (result, host) := h.host.subscribe p
    (result, { h with host := host })
  unsubscribe p := fun h =>
    let (result, host) := h.host.unsubscribe p
    (result, { h with host := host })

open FileView

instance : FileView CrampedHost where
  Place := Location
  place? h p := place? h.host p
  thing? h l := thing? h.host l

theorem holds_iff {h : CrampedHost} {p : Path} {content : ByteArray} :
    Holds h p content ↔ h.host.disk.read p = .ok content :=
  Host.holds_iff (h := h.host)

/-- A write that fails has changed no more than the file that it was to write. -/
theorem changedAt_write (h : CrampedHost) (p : Path) (content : ByteArray) :
    ChangedAt p h (h.write p content).2 := by
  unfold write
  split
  · exact .refl p h
  · rename_i disk hw
    have hchanged := Host.changedAt_write hw
    exact ⟨hchanged.place_eq, hchanged.thing_eq⟩

theorem holds_write {h : CrampedHost} {p : Path} {content : ByteArray}
    (hok : (h.write p content).1 = .ok ()) : Holds (h.write p content).2 p content := by
  unfold write at hok ⊢
  split at hok
  · cases hok
  · rename_i disk hw
    dsimp only at hok ⊢
    split at hok
    · rename_i hroom
      rw [holds_iff]
      have hwhole : content.extract 0 h.room = content := by
        apply ByteArray.ext
        rw [ByteArray.data_extract]
        exact Array.extract_eq_self_of_le hroom
      rw [hwhole] at hw
      exact Disk.read_write hw
    · cases hok

instance : LastingFiles CrampedHost where
  read p h := ⟨h.host.disk.read p, rfl, fun _ => holds_iff.symm⟩
  write p content h := ⟨_, _, rfl, h.changedAt_write p content, holds_write⟩
  makeDirectories p h := by
    have hmade := LastingFiles.makeDirectories p h.host
    exact ⟨hmade.place, hmade.file⟩

/-- **Writes on a cramped host are torn.** -/
theorem not_atomicFiles : ¬ AtomicFiles CrampedHost := by
  intro hatomic
  let before : CrampedHost := ⟨⟨⟨[(["song.txt"], .file "la".toUTF8)], []⟩, []⟩, 1⟩
  have hfails : (before.write "song.txt" "so la".toUTF8).1 = .error noRoom := by decide +kernel
  have hleft : (before.write "song.txt" "so la".toUTF8).2.host.disk.read "song.txt" ≠
      before.host.disk.read "song.txt" := by decide +kernel
  have hrun : (FileSystem.write "song.txt" "so la".toUTF8 :
      StateM CrampedHost (Except FileError Unit)).run before =
        (.error noRoom, (before.write "song.txt" "so la".toUTF8).2) := Prod.ext hfails rfl
  exact hleft (congrArg (fun h => h.host.disk.read "song.txt") (hatomic.write_error hrun))

end CrampedHost

end ChordSheet
