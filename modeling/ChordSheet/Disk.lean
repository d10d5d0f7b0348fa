import ChordSheet.FileSystem

/-!
# A disk in memory

A disk maps places to files and directories. A place is the list of names on the way to it from
the root, which is a directory always. A path is followed name by name from the root or from the
working directory: void parts stay where they are, `..` leads up, and every place that is left
has to be a directory. There are no links, so each thing has one place. A name has at most 255
bytes, and a path has to have less than 4096 unless only its canonical form is asked for.

* `node?_set` : what stands where after something was put on the disk.
* `node?_write` : a successful write changes one place.
-/

set_option autoImplicit false

namespace ChordSheet

/-- The names on the way from the root. -/
abbrev Location := List String

namespace Location

/-- The absolute path of a place. -/
def path (l : Location) : Path := "/" ++ "/".intercalate l

end Location

/-- What stands at a place. -/
inductive Node where
  | file (content : ByteArray)
  | directory

/-- Files, directories and a working directory. -/
structure Disk where
  /-- What stands where, the root apart. -/
  nodes : List (Location × Node)
  /-- The directory from which relative paths go. -/
  current : Location

namespace Disk

/-- What stands at a place. -/
def node? (d : Disk) (l : Location) : Option Node :=
  if l = [] then some .directory else d.nodes.lookup l

/-- The entries with one entry set. -/
def setEntry (l : Location) (n : Node) : List (Location × Node) → List (Location × Node)
  | [] => [(l, n)]
  | (k, v) :: rest => if k = l then (l, n) :: rest else (k, v) :: setEntry l n rest

/-- Puts something at a place, in place of what stood there. -/
def set (d : Disk) (l : Location) (n : Node) : Disk := { d with nodes := setEntry l n d.nodes }

/-- Whether a directory stands at a place; the error says what else does. -/
def expectDirectory (d : Disk) (l : Location) : Except FileError Unit :=
  match d.node? l with
  | some .directory => .ok ()
  | some (.file _) => .error .notDirectory
  | none => .error .notFound

/-- A name is looked up only if it is not too long. -/
def expectShort (name : String) : Except FileError Unit :=
  if 255 < name.utf8ByteSize then .error .nameTooLong else .ok ()

/-- Follows names from a place. Every place that is left is a directory; the last place may hold
anything or nothing. -/
def walk (d : Disk) : Location → List String → Except FileError Location
  | here, [] => .ok here
  | here, name :: rest => do
    d.expectDirectory here
    if name = "" || name = "." then d.walk here rest
    else if name = ".." then d.walk here.dropLast rest
    else do
      expectShort name
      d.walk (here ++ [name]) rest

/-- The names in a path, void ones too. -/
def names (p : Path) : List String := (Text.pieces '/' p.toList).map String.ofList

/-- Where a path starts. -/
def start (d : Disk) (p : Path) : Location := if p.toList.head? = some '/' then [] else d.current

/-- A path is followed only if it is not empty and does not hold the character zero. -/
def expectName (p : Path) : Except FileError Unit :=
  if p.toList.contains '\x00' then .error .zeroInName
  else if p = "" then .error .notFound
  else .ok ()

/-- The files at a path are asked for only if the path can be followed and is not too long. -/
def expectPath (p : Path) : Except FileError Unit := do
  expectName p
  if 4096 ≤ p.utf8ByteSize then .error .nameTooLong else .ok ()

/-- The place to which a path of any length leads. -/
def follow (d : Disk) (p : Path) : Except FileError Location := do
  expectName p
  d.walk (d.start p) (names p)

/-- The place to which a path leads. -/
def locate (d : Disk) (p : Path) : Except FileError Location := do
  expectPath p
  d.follow p

/-- The place and the thing to which a path leads. -/
def lookup (d : Disk) (p : Path) : Except FileError (Location × Node) := do
  let l ← d.locate p
  match d.node? l with
  | some n => .ok (l, n)
  | none => .error .notFound

/-- The content of a file. -/
def read (d : Disk) (p : Path) : Except FileError ByteArray := do
  match (← d.lookup p).2 with
  | .file content => .ok content
  | .directory => .error .isDirectory

/-- Whether a path leads to a directory. -/
def isDirectory (d : Disk) (p : Path) : Bool :=
  match d.lookup p with
  | .ok (_, .directory) => true
  | _ => false

/-- The directory in which a new thing at a path would stand, and its name. There is no name if
the path ends in `.` or `..` or is a row of slashes. The flag tells whether slashes follow the
last name. -/
def parentAndName (d : Disk) (p : Path) :
    Except FileError (Location × Option String × Bool) := do
  expectPath p
  let reversed := (names p).reverse
  let slash := reversed.head? = some ""
  match reversed.dropWhile (· = "") with
  | [] => .ok ([], none, slash)
  | last :: before =>
    let here ← d.walk (d.start p) before.reverse
    d.expectDirectory here
    .ok (here, if last = "." || last = ".." then none else some last, slash)

/-- The place at which a file is written through a path. -/
def writeTarget (d : Disk) (p : Path) : Except FileError Location := do
  match ← d.parentAndName p with
  | (here, some name, false) =>
    expectShort name
    match d.node? (here ++ [name]) with
    | some .directory => .error .isDirectory
    | _ => .ok (here ++ [name])
  | _ => .error .isDirectory

/-- Makes a file hold exactly this content. -/
def write (d : Disk) (p : Path) (content : ByteArray) : Except FileError Disk := do
  let l ← d.writeTarget p
  .ok (d.set l (.file content))

/-- Makes one directory. -/
def makeDirectory (d : Disk) (p : Path) : Except FileError Disk := do
  match ← d.parentAndName p with
  | (here, some name, _) =>
    expectShort name
    match d.node? (here ++ [name]) with
    | some _ => .error .alreadyExists
    | none => .ok (d.set (here ++ [name]) .directory)
  | (_, none, _) => .error .alreadyExists

/-- Makes the directory at a path, given as anchor and reversed parts, after the directories
above it that are missing. What fails is told together with the disk at that time. -/
def makeAbove (d : Disk) (anchor : List Char) : List (List Char) → Except FileError Unit × Disk
  | [] => (.ok (), d)
  | part :: above =>
    let p := String.ofList (anchor ++ Text.join '/' (part :: above).reverse)
    match d.makeDirectory p with
    | .ok made => (.ok (), made)
    | .error .notFound =>
      match d.makeAbove anchor (above.dropWhile Path.isVoid) with
      | (.ok (), raised) =>
        match raised.makeDirectory p with
        | .ok made => (.ok (), made)
        | .error e => (if raised.isDirectory p then .ok () else .error e, raised)
      | failed => failed
    | .error e => (if d.isDirectory p then .ok () else .error e, d)
termination_by parts => parts.length
decreasing_by
  exact Nat.lt_succ_of_le (List.Sublist.length_le (List.dropWhile_sublist _))

/-- Makes a directory and all that are missing above it. -/
def makeDirectories (d : Disk) (p : Path) : Except FileError Unit × Disk :=
  let (anchor, reversed) := Path.parts p.toList
  d.makeAbove anchor reversed

/-- The place to which a path leads, if something stands there. -/
def canonical? (d : Disk) (p : Path) : Option Location :=
  match d.follow p with
  | .ok l => if (d.node? l).isSome then some l else none
  | .error _ => none

theorem lookup_setEntry (l k : Location) (n : Node) (es : List (Location × Node)) :
    (setEntry l n es).lookup k = if k = l then some n else es.lookup k := by
  induction es with
  | nil =>
    by_cases h : k = l
    · simp [setEntry, h]
    · simp [setEntry, List.lookup_cons, h, beq_false_of_ne h]
  | cons e es ih =>
    obtain ⟨a, v⟩ := e
    by_cases ha : a = l
    · subst ha
      by_cases h : k = a
      · simp [setEntry, h]
      · simp [setEntry, List.lookup_cons, h, beq_false_of_ne h]
    · by_cases h : k = a
      · subst h
        simp [setEntry, ha]
      · simp [setEntry, ha, List.lookup_cons, beq_false_of_ne h, ih]

theorem node?_set {d : Disk} {l : Location} (hl : l ≠ []) (n : Node) (k : Location) :
    (d.set l n).node? k = if k = l then some n else d.node? k := by
  unfold node? set
  by_cases hk : k = []
  · subst hk
    simp [Ne.symm hl]
  · simp [hk, lookup_setEntry]

theorem writeTarget_ne_nil {d : Disk} {p : Path} {l : Location} (h : d.writeTarget p = .ok l) :
    l ≠ [] := by
  simp only [writeTarget, bind, Except.bind] at h
  split at h
  · cases h
  · split at h
    · split at h
      · cases h
      · split at h
        · cases h
        · cases h; simp
    · cases h

theorem node?_write {d e : Disk} {p : Path} {content : ByteArray} (h : d.write p content = .ok e) :
    ∃ l, d.writeTarget p = .ok l ∧
      ∀ k, e.node? k = if k = l then some (.file content) else d.node? k := by
  simp only [write, bind, Except.bind] at h
  split at h
  · cases h
  · rename_i l hl
    cases h
    exact ⟨l, hl, node?_set (writeTarget_ne_nil hl) _⟩

end Disk

end ChordSheet
