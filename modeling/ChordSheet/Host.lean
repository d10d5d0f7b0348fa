import ChordSheet.Disk
import ChordSheet.Watch.Notifier

/-!
# A computer in memory

A host is a disk together with the places that someone wants to be told about. It offers the
operations on files and the notifier, so that everything the library does to a computer can be
done to a host. When text is appended to a file that was subscribed for, the host tells of one
change, under the canonical path of the file.

Everything on a host may be read and written, there is room for everything, and the notifier follows
whatever it finds. What is written through the operations on files is told by nobody: how often and
when a computer tells a program of the program's own writes differs from one to the other, so
whoever runs a program on a host says so (`Action.told`).

* `Host.disk_subscribe`, `Host.disk_unsubscribe` : asking for changes changes no file.
-/

set_option autoImplicit false

namespace ChordSheet

/-- A disk and the places subscribed for. -/
structure Host where
  /-- The files. -/
  disk : Disk
  /-- The places that are watched for changes. -/
  subscribed : List Location

namespace Host

/-- The absolute path that a path means. -/
def absolute (h : Host) (p : Path) : Path :=
  String.ofList (Path.append h.disk.current.path.toList p.toList)

/-- Subscribes for the thing at a path. -/
def subscribe (h : Host) (p : Path) : Except WatchError Unit × Host :=
  match h.disk.lookup p with
  | .ok (l, _) => (.ok (), { h with subscribed := l :: h.subscribed })
  | .error e => (.error ⟨.ofFileError e, some (h.absolute p)⟩, h)

/-- Takes a subscription back. -/
def unsubscribe (h : Host) (p : Path) : Except WatchError Unit × Host :=
  match h.disk.canonical? p with
  | some l =>
    if l ∈ h.subscribed then (.ok (), { h with subscribed := h.subscribed.filter (· ≠ l) })
    else (.error ⟨.noWatch, some (h.absolute p)⟩, h)
  | none => (.error ⟨.noWatch, some (h.absolute p)⟩, h)

/-- Appends bytes to a file. The answer holds the paths under which the change is told. -/
def append (h : Host) (p : Path) (bytes : ByteArray) : List Path × Host :=
  match h.disk.lookup p with
  | .ok (l, .file content) =>
    let changed := { h with disk := h.disk.set l (.file (content ++ bytes)) }
    (if l ∈ h.subscribed && bytes.size != 0 then [l.path] else [], changed)
  | _ => ([], h)

instance : FileSystem (StateM Host) where
  read p := fun h => (h.disk.read p, h)
  write p content := fun h =>
    match h.disk.write p content with
    | .ok disk => (.ok (), { h with disk := disk })
    | .error e => (.error e, h)
  makeDirectories p := fun h =>
    let (result, disk) := h.disk.makeDirectories p
    (result, { h with disk := disk })
  canonical? p := fun h => ((h.disk.canonical? p).map Location.path, h)

instance : Notifier (StateM Host) where
  start := fun h => (.ok (), h)
  subscribe p := fun h => h.subscribe p
  unsubscribe p := fun h => h.unsubscribe p

theorem disk_subscribe (h : Host) (p : Path) : (h.subscribe p).2.disk = h.disk := by
  unfold subscribe
  split <;> rfl

theorem disk_unsubscribe (h : Host) (p : Path) : (h.unsubscribe p).2.disk = h.disk := by
  unfold unsubscribe
  split
  · split <;> rfl
  · rfl

end Host

end ChordSheet
