import ChordSheet.Watch.Notifier

/-!
# The table of watched sheets

Which sheets are watched, and to which key each is transposed when it changes. Sheets are kept by
their canonical path, so that every spelling of a path means the same sheet. A sheet is
subscribed for once: when it is watched again, only its key changes.

* `keyOf?_set`, `keyOf?_erase` : what the table holds after a change.
* `erase_set`, `erase_eq_self` : what is taken off again leaves the table as it was.
-/

set_option autoImplicit false

namespace ChordSheet

/-- The watched sheets and their keys, each sheet once. -/
structure WatchTable where
  /-- Canonical paths and keys. -/
  entries : List (Path × Key)
  deriving DecidableEq, Repr

namespace WatchTable

/-- The table before anything is watched. -/
def empty : WatchTable := ⟨[]⟩

/-- The key with which a sheet is watched. -/
def keyOf? (t : WatchTable) (p : Path) : Option Key := t.entries.lookup p

/-- Takes a sheet off the table. -/
def erase (t : WatchTable) (p : Path) : WatchTable := ⟨t.entries.filter fun e => e.1 != p⟩

/-- Watches a sheet with a key, whatever its key was. -/
def set (t : WatchTable) (p : Path) (k : Key) : WatchTable := ⟨(p, k) :: (t.erase p).entries⟩

theorem lookup_filter_ne (p q : Path) (es : List (Path × Key)) :
    (es.filter fun e => e.1 != p).lookup q = if q = p then none else es.lookup q := by
  induction es with
  | nil => simp
  | cons e es ih =>
    obtain ⟨a, v⟩ := e
    by_cases ha : a = p
    · subst ha
      by_cases hq : q = a
      · subst hq
        simpa using ih
      · simp [hq, ih, List.lookup_cons, beq_false_of_ne hq]
    · by_cases hq : q = a
      · subst hq
        simp [ha]
      · simp [ha, ih, List.lookup_cons, beq_false_of_ne hq]

theorem keyOf?_erase (t : WatchTable) (p q : Path) :
    (t.erase p).keyOf? q = if q = p then none else t.keyOf? q :=
  lookup_filter_ne p q t.entries

theorem keyOf?_set (t : WatchTable) (p q : Path) (k : Key) :
    (t.set p k).keyOf? q = if q = p then some k else t.keyOf? q := by
  unfold set keyOf?
  by_cases h : q = p
  · subst h
    simp
  · simpa [List.lookup_cons, beq_false_of_ne h, h, keyOf?] using keyOf?_erase t p q

theorem erase_set (t : WatchTable) (p : Path) (k : Key) : (t.set p k).erase p = t.erase p := by
  simp [set, erase]

theorem erase_eq_self {t : WatchTable} {p : Path} (h : t.keyOf? p = none) : t.erase p = t := by
  have hkept : ∀ e ∈ t.entries, (e.1 != p) = true := fun e he =>
    bne_comm.trans (List.lookup_eq_none_iff.mp h e he)
  rw [erase, List.filter_eq_self.mpr hkept]

variable {m : Type → Type} [Monad m] [FileSystem m] [Notifier m]

/-- Watches the sheet at a path. The answer is the key it was watched with before, if it was; a
sheet that cannot be subscribed for is not watched. -/
def watch (t : WatchTable) (p : Path) (k : Key) :
    m (Except WatchError (Option Key) × WatchTable) := do
  let sheet ← FileSystem.canonical p
  match t.keyOf? sheet with
  | some previous => pure (.ok (some previous), t.set sheet k)
  | none =>
    match ← Notifier.subscribe sheet with
    | .ok () => pure (.ok none, t.set sheet k)
    | .error e => pure (.error e, t)

/-- Stops watching the sheet at a path. The answer is the key it was watched with, if it was. -/
def unwatch (t : WatchTable) (p : Path) : m (Except WatchError (Option Key) × WatchTable) := do
  let sheet ← FileSystem.canonical p
  match t.keyOf? sheet with
  | none => pure (.ok none, t)
  | some key =>
    match ← Notifier.unsubscribe sheet with
    | .ok () => pure (.ok (some key), t.erase sheet)
    | .error e => pure (.error e, t.erase sheet)

/-- The key with which the sheet at a path is watched. -/
def keyFor? (t : WatchTable) (p : Path) : m (Option Key) := do
  return t.keyOf? (← FileSystem.canonical p)

end WatchTable

end ChordSheet
