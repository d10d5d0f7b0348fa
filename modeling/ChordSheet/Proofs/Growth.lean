import ChordSheet.Proofs.Walking

/-!
# Disks grow

Writing files and making directories *grows* a disk: what is there stays there, as a file or as a
directory, the disk is as sound as it was, and a path that led somewhere leads there still. What
was written is read back through the path of the write.

* `Disk.grows_write`, `Disk.grows_makeDirectories` : disks grow.
* `Disk.Grows.follow`, `Disk.Grows.lookup` : paths lead where they led.
* `Disk.read_write` : what was written is read back.
-/

set_option autoImplicit false

namespace ChordSheet

/-- Whether a thing is a file. -/
def Node.isFile : Node → Bool
  | .file _ => true
  | .directory => false

namespace Disk

variable {d e : Disk} {p : Path} {l here : Location}

/-! ## Growing disks -/

/-- A disk after something was put on it: what was there is there, as a file or as a directory,
and the disk is as sound as it was. -/
structure Grows (d e : Disk) : Prop where
  current : e.current = d.current
  keeps : ∀ l n, d.node? l = some n → ∃ m, e.node? l = some m ∧ m.isFile = n.isFile
  sound : d.Sound → e.Sound

theorem Grows.refl (d : Disk) : d.Grows d := ⟨rfl, fun _ n h => ⟨n, h, rfl⟩, id⟩

theorem Grows.trans {f : Disk} (h : d.Grows e) (h' : e.Grows f) : d.Grows f := by
  refine ⟨h'.current.trans h.current, ?_, fun hd => h'.sound (h.sound hd)⟩
  intro l n hn
  obtain ⟨m, hm, hmn⟩ := h.keeps l n hn
  obtain ⟨k, hk, hkm⟩ := h'.keeps l m hm
  exact ⟨k, hk, hkm.trans hmn⟩

theorem Grows.directory (h : d.Grows e) (hl : d.node? l = some .directory) :
    e.node? l = some .directory := by
  obtain ⟨m, hm, hkind⟩ := h.keeps l _ hl
  cases m with
  | file c => cases hkind
  | directory => exact hm

theorem Grows.file (h : d.Grows e) {c : ByteArray} (hl : d.node? l = some (.file c)) :
    ∃ c', e.node? l = some (.file c') := by
  obtain ⟨m, hm, hkind⟩ := h.keeps l _ hl
  cases m with
  | file c' => exact ⟨c', hm⟩
  | directory => cases hkind

/-- What was there and is a file now was a file. -/
theorem Grows.file_of_file (h : d.Grows e) {n : Node} {c : ByteArray} (hd : d.node? l = some n)
    (he : e.node? l = some (.file c)) : ∃ c', d.node? l = some (.file c') := by
  cases n with
  | file c' => exact ⟨c', hd⟩
  | directory =>
    rw [h.directory hd] at he
    cases he

theorem Grows.walk (h : d.Grows e) {names : List String} (hw : d.walk here names = .ok l) :
    e.walk here names = .ok l :=
  walk_of_directories (fun _ => h.directory) hw

theorem Grows.start_eq (h : d.Grows e) (p : Path) : e.start p = d.start p := by
  rw [start, start, h.current]

theorem Grows.follow (h : d.Grows e) (hp : d.follow p = .ok l) : e.follow p = .ok l := by
  rw [follow_eq_ok_iff] at hp ⊢
  exact ⟨hp.1, by rw [h.start_eq]; exact h.walk hp.2⟩

theorem Grows.locate (h : d.Grows e) (hp : d.locate p = .ok l) : e.locate p = .ok l := by
  rw [locate_eq_ok_iff] at hp ⊢
  exact ⟨hp.1, h.follow hp.2⟩

theorem Grows.lookup (h : d.Grows e) {n : Node} (hp : d.lookup p = .ok (l, n)) :
    ∃ m, e.lookup p = .ok (l, m) ∧ m.isFile = n.isFile := by
  obtain ⟨hl, hn⟩ := lookup_eq_ok_iff.mp hp
  obtain ⟨m, hm, hkind⟩ := h.keeps l n hn
  exact ⟨m, lookup_eq_ok_iff.mpr ⟨h.locate hl, hm⟩, hkind⟩

theorem Grows.lookup_file (h : d.Grows e) {c : ByteArray} (hp : d.lookup p = .ok (l, .file c)) :
    ∃ c', e.lookup p = .ok (l, .file c') := by
  obtain ⟨hl, hn⟩ := lookup_eq_ok_iff.mp hp
  obtain ⟨c', hc⟩ := h.file hn
  exact ⟨c', lookup_eq_ok_iff.mpr ⟨h.locate hl, hc⟩⟩

/-- A disk grows if something is put in a directory under a proper name, unless it replaces a
thing of the other kind. -/
theorem grows_set {name : String} {n : Node} (hdir : d.node? here = some .directory)
    (hname : ProperName name)
    (hn : ∀ m, d.node? (here ++ [name]) = some m → n.isFile = m.isFile) :
    d.Grows (d.set (here ++ [name]) n) := by
  have hset : ∀ k, (d.set (here ++ [name]) n).node? k =
      if k = here ++ [name] then some n else d.node? k := node?_set (by simp) n
  have hkeeps : ∀ l m, d.node? l = some m →
      ∃ m', (d.set (here ++ [name]) n).node? l = some m' ∧ m'.isFile = m.isFile := by
    intro l m hm
    rw [hset]
    split
    · rename_i hl
      exact ⟨n, rfl, hn m (hl ▸ hm)⟩
    · exact ⟨m, hm, rfl⟩
  have hdirectory : ∀ l, d.node? l = some .directory →
      (d.set (here ++ [name]) n).node? l = some .directory := by
    intro l hl
    obtain ⟨m, hm, hkind⟩ := hkeeps l _ hl
    cases m with
    | file c => cases hkind
    | directory => exact hm
  refine ⟨rfl, hkeeps, ?_⟩
  intro hd l name' m hm
  rw [hset] at hm
  split at hm
  · rename_i heq
    obtain ⟨rfl, hnames⟩ := List.append_inj' heq rfl
    obtain rfl := (List.cons.inj hnames).1
    exact ⟨hdirectory _ hdir, hname⟩
  · exact ⟨hdirectory _ (hd l name' m hm).1, (hd l name' m hm).2⟩

theorem grows_write {content : ByteArray} (h : d.write p content = .ok e) : d.Grows e := by
  obtain ⟨l, hl, h⟩ := bind_eq_ok_iff.mp h
  obtain ⟨before, here, name, _, _, _, hdir, hname, rfl, hnode⟩ := writeTarget_eq_ok hl
  cases h
  refine grows_set hdir hname ?_
  intro m hm
  cases m with
  | file c => rfl
  | directory => exact absurd hm hnode

/-- A write makes no directory. -/
theorem directory_of_write {content : ByteArray} (h : d.write p content = .ok e)
    (hl : e.node? l = some .directory) : d.node? l = some .directory := by
  obtain ⟨k, _, hset⟩ := node?_write h
  rw [hset] at hl
  split at hl
  · cases hl
  · exact hl

/-- Every path leads where it led before a write. -/
theorem locate_write {content : ByteArray} (h : d.write p content = .ok e) {q : Path} :
    e.locate q = .ok l ↔ d.locate q = .ok l := by
  refine ⟨?_, (grows_write h).locate⟩
  intro hl
  rw [locate_eq_ok_iff, follow_eq_ok_iff] at hl ⊢
  obtain ⟨hpath, hname, hwalk⟩ := hl
  rw [(grows_write h).start_eq] at hwalk
  exact ⟨hpath, hname, walk_of_directories (fun _ => directory_of_write h) hwalk⟩

theorem grows_makeDirectory (h : d.makeDirectory p = .ok e) : d.Grows e := by
  obtain ⟨⟨here, name?, slash⟩, hparent, h⟩ := bind_eq_ok_iff.mp h
  split at h
  · rename_i here' name slash' heq
    cases heq
    obtain ⟨hshort, h⟩ := bind_unit_eq_ok_iff.mp h
    obtain ⟨_, _, _, _, _, _, hdir, _⟩ := parentAndName_eq_ok hparent
    split at h
    · cases h
    · rename_i hnone
      cases h
      refine grows_set hdir (properName_of_parentAndName hparent hshort) ?_
      intro m hm
      rw [hnone] at hm
      cases hm
  · cases h

/-- To make a directory changes no file. -/
theorem file_makeDirectory {content : ByteArray} (h : d.makeDirectory p = .ok e) :
    e.node? l = some (.file content) ↔ d.node? l = some (.file content) := by
  obtain ⟨⟨here, name?, slash⟩, _, h⟩ := bind_eq_ok_iff.mp h
  split at h
  · rename_i here' name slash' heq
    cases heq
    obtain ⟨_, h⟩ := bind_unit_eq_ok_iff.mp h
    split at h
    · cases h
    · rename_i hnone
      cases h
      rw [node?_set (by simp)]
      split
      · rename_i hl
        rw [hl, hnone]
        simp
      · rfl
  · cases h

/-- What every new directory does to a disk, some new directories do. -/
theorem makeAbove_of_makeDirectory {R : Disk → Disk → Prop} (hrefl : ∀ d, R d d)
    (htrans : ∀ {a b c}, R a b → R b c → R a c)
    (hstep : ∀ {d e p}, d.makeDirectory p = .ok e → R d e) (d : Disk) (anchor : List Char)
    (parts : List (List Char)) : R d (d.makeAbove anchor parts).2 := by
  fun_induction makeAbove d anchor parts with
  | case1 => exact hrefl d
  | case2 part above p made hmade => exact hstep hmade
  | case3 part above p _ raised habove made hmade ih =>
    rw [habove] at ih
    exact htrans ih (hstep hmade)
  | case4 part above p _ raised habove e _ ih =>
    rw [habove] at ih
    exact ih
  | case5 part above p _ _ ih => exact ih
  | case6 part above p e _ _ => exact hrefl d

theorem grows_makeDirectories (d : Disk) (p : Path) : d.Grows (d.makeDirectories p).2 :=
  makeAbove_of_makeDirectory Grows.refl Grows.trans grows_makeDirectory d _ _

theorem file_makeDirectories (d : Disk) (p : Path) :
    ∀ l content, (d.makeDirectories p).2.node? l = some (.file content) ↔
      d.node? l = some (.file content) :=
  makeAbove_of_makeDirectory
    (R := fun d e => ∀ l content,
      e.node? l = some (.file content) ↔ d.node? l = some (.file content))
    (fun _ _ _ => Iff.rfl) (fun h h' l content => (h' l content).trans (h l content))
    (fun h _ _ => file_makeDirectory h) d _ _

/-- **What was written is read back** through the path of the write. -/
theorem read_write {content : ByteArray} (h : d.write p content = .ok e) :
    e.read p = .ok content := by
  obtain ⟨l, hl, hset⟩ := node?_write h
  have hlocate : e.locate p = .ok l := (locate_write h).mpr (locate_of_writeTarget hl)
  have hnode : e.node? l = some (.file content) := by rw [hset, if_pos rfl]
  exact read_eq_ok_iff.mpr ⟨l, lookup_eq_ok_iff.mpr ⟨hlocate, hnode⟩⟩

end Disk

end ChordSheet
