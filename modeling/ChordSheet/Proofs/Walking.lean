import Mathlib.Algebra.GroupWithZero.Nat
import Mathlib.Data.List.Induction
import Mathlib.Data.List.TakeWhile
import ChordSheet.Disk
import ChordSheet.Proofs.Spelling

/-!
# Where paths lead

A path is followed name by name. A disk is *sound* if everything on it but the root has a proper
name and stands in a directory. On a sound disk every thing is found at its absolute path, so that
its canonical path stands for it.

* `Disk.walk_append`, `Disk.walk_cons_eq_ok_iff` : how names are followed.
* `Disk.Sound.follow_path` : a thing on a sound disk is found at its absolute path.
* `Disk.Sound.path_inj` : things with one absolute path are one thing.
* `Disk.lookup_eq_ok_iff`, `Disk.canonical?_eq_some_iff` : what is found at a path.
* `Disk.writeTarget_eq_ok` : where a write goes.
-/

set_option autoImplicit false

namespace ChordSheet

theorem bind_eq_ok_iff {ε α β : Type} {x : Except ε α} {f : α → Except ε β} {b : β} :
    (x >>= f) = .ok b ↔ ∃ a, x = .ok a ∧ f a = .ok b := by
  cases x <;> simp [bind, Except.bind]

theorem bind_unit_eq_ok_iff {ε β : Type} {x : Except ε Unit} {f : Unit → Except ε β} {b : β} :
    (x >>= f) = .ok b ↔ x = .ok () ∧ f () = .ok b := by
  cases x <;> simp [bind, Except.bind]

/-! ## Pieces of a text -/

namespace Text

theorem intercalate_eq_join (sep : Char) (ps : List (List Char)) :
    [sep].intercalate ps = join sep ps := by
  induction ps with
  | nil => rfl
  | cons p ps ih =>
    cases ps with
    | nil => simp [List.intercalate, join]
    | cons q qs =>
      rw [join_cons_cons, ← ih]
      simp [List.intercalate]

/-- The characters of a text are those of its pieces, and the separator. -/
theorem mem_iff_exists_piece {sep x : Char} (hx : x ≠ sep) (s : List Char) :
    x ∈ s ↔ ∃ q ∈ pieces sep s, x ∈ q := by
  induction s using pieces_induction sep with
  | whole s hs => simp [pieces_of_not_mem hs]
  | cut a b ha ih => simp [pieces_append_cons b ha, hx, ih]

/-- Every character of a piece is one of the text. -/
theorem mem_of_mem_pieces {sep x : Char} {s q : List Char} (hq : q ∈ pieces sep s)
    (hx : x ∈ q) : x ∈ s := by
  induction s using pieces_induction sep with
  | whole s hs =>
    rw [pieces_of_not_mem hs, List.mem_singleton] at hq
    exact hq ▸ hx
  | cut a b ha ih =>
    rw [pieces_append_cons b ha] at hq
    rcases List.mem_cons.mp hq with rfl | hq
    · exact List.mem_append_left _ hx
    · exact List.mem_append_right _ (List.mem_cons_of_mem _ (ih hq))

end Text

/-! ## Following names -/

namespace Disk

variable {d e : Disk} {p : Path} {l here : Location}

@[simp]
theorem node?_nil (d : Disk) : d.node? [] = some .directory := rfl

theorem expectDirectory_eq_ok_iff : d.expectDirectory l = .ok () ↔ d.node? l = some .directory := by
  unfold expectDirectory
  split <;> simp_all

theorem expectShort_eq_ok_iff {name : String} :
    expectShort name = .ok () ↔ name.utf8ByteSize ≤ 255 := by
  unfold expectShort
  split <;> simp <;> omega

/-- The place to which one name leads. -/
def next (here : Location) (name : String) : Location :=
  if name = "" ∨ name = "." then here else if name = ".." then here.dropLast else here ++ [name]

theorem walk_cons_eq_ok_iff {name : String} {rest : List String} :
    d.walk here (name :: rest) = .ok l ↔
      d.node? here = some .directory ∧ name.utf8ByteSize ≤ 255 ∧
        d.walk (next here name) rest = .ok l := by
  rw [walk, bind_unit_eq_ok_iff, expectDirectory_eq_ok_iff]
  simp only [Bool.or_eq_true, decide_eq_true_eq]
  refine and_congr_right fun _ => ?_
  unfold next
  split
  · rename_i h
    have hshort : name.utf8ByteSize ≤ 255 := by rcases h with rfl | rfl <;> decide
    simp [hshort]
  · split
    · rename_i h
      have hshort : name.utf8ByteSize ≤ 255 := by subst h; decide
      simp [hshort]
    · rw [bind_unit_eq_ok_iff, expectShort_eq_ok_iff]

/-- Names lead where they led if all directories are directories still. -/
theorem walk_of_directories {names : List String}
    (hdir : ∀ k, d.node? k = some .directory → e.node? k = some .directory)
    (h : d.walk here names = .ok l) : e.walk here names = .ok l := by
  induction names generalizing here with
  | nil => exact h
  | cons name rest ih =>
    obtain ⟨hhere, hshort, hrest⟩ := walk_cons_eq_ok_iff.mp h
    exact walk_cons_eq_ok_iff.mpr ⟨hdir here hhere, hshort, ih hrest⟩

/-- Names are followed one after the other. -/
theorem walk_append (d : Disk) (here : Location) (ns ms : List String) :
    d.walk here (ns ++ ms) = d.walk here ns >>= fun there => d.walk there ms := by
  induction ns generalizing here with
  | nil => rfl
  | cons name ns ih =>
    rw [List.cons_append, walk, walk, bind_assoc]
    refine bind_congr fun _ => ?_
    split
    · exact ih here
    · split
      · exact ih here.dropLast
      · rw [bind_assoc]
        exact bind_congr fun _ => ih _

theorem walk_append_eq_ok_iff {ns ms : List String} :
    d.walk here (ns ++ ms) = .ok l ↔ ∃ there, d.walk here ns = .ok there ∧
      d.walk there ms = .ok l := by
  rw [walk_append, bind_eq_ok_iff]

/-- Void names lead nowhere. -/
theorem eq_of_walk_void {voids : List String} (hv : ∀ name ∈ voids, name = "" ∨ name = ".")
    (h : d.walk here voids = .ok l) : l = here := by
  induction voids with
  | nil => exact (Except.ok.inj h).symm
  | cons name rest ih =>
    obtain ⟨_, _, hrest⟩ := walk_cons_eq_ok_iff.mp h
    rw [next, if_pos (hv name List.mem_cons_self)] at hrest
    exact ih (fun n hn => hv n (List.mem_cons_of_mem _ hn)) hrest

/-! ## Sound disks -/

/-- A name that something on a disk can have. -/
structure ProperName (name : String) : Prop where
  ne_empty : name ≠ ""
  ne_dot : name ≠ "."
  ne_dots : name ≠ ".."
  slash : '/' ∉ name.toList
  zero : '\x00' ∉ name.toList
  short : name.utf8ByteSize ≤ 255

/-- Everything on the disk but the root has a proper name and stands in a directory. -/
def Sound (d : Disk) : Prop :=
  ∀ (l : Location) (name : String) (n : Node), d.node? (l ++ [name]) = some n →
    d.node? l = some .directory ∧ ProperName name

instance : DecidablePred ProperName := fun name =>
  decidable_of_iff (name ≠ "" ∧ name ≠ "." ∧ name ≠ ".." ∧ '/' ∉ name.toList ∧
      '\x00' ∉ name.toList ∧ name.utf8ByteSize ≤ 255)
    ⟨fun ⟨hne, hdot, hdots, hslash, hzero, hshort⟩ => ⟨hne, hdot, hdots, hslash, hzero, hshort⟩,
      fun h => ⟨h.ne_empty, h.ne_dot, h.ne_dots, h.slash, h.zero, h.short⟩⟩

/-- A disk is sound if each of its entries has a proper name and stands in a directory. -/
theorem sound_of_entries (h : ∀ entry ∈ d.nodes, d.expectDirectory entry.1.dropLast = .ok () ∧
    ∀ name ∈ entry.1.getLast?, ProperName name) : d.Sound := by
  intro l name n hn
  rw [node?, if_neg (by simp), List.lookup_eq_some_iff] at hn
  obtain ⟨before, after, hnodes, -⟩ := hn
  have hmem : (l ++ [name], n) ∈ d.nodes := by
    rw [hnodes]
    exact List.mem_append_right before List.mem_cons_self
  obtain ⟨hdirectory, hname⟩ := h _ hmem
  rw [List.dropLast_concat] at hdirectory
  exact ⟨expectDirectory_eq_ok_iff.mp hdirectory, hname name (by simp)⟩

/-- A disk on which everything stands in the root is sound. -/
theorem sound_of_names {nodes : List (Location × Node)} {current : Location}
    (h : ∀ entry ∈ nodes, ∃ name, entry.1 = [name] ∧ ProperName name) : Sound ⟨nodes, current⟩ := by
  refine sound_of_entries fun entry hentry => ?_
  obtain ⟨name, hl, hname⟩ := h entry hentry
  rw [hl]
  refine ⟨rfl, fun last hlast => ?_⟩
  obtain rfl := Option.some.inj hlast
  exact hname

/-- A disk that holds one file is sound. -/
theorem sound_single {name : String} (h : ProperName name) (content : ByteArray)
    (current : Location) : Sound ⟨[([name], .file content)], current⟩ := by
  refine sound_of_names fun entry hentry => ?_
  rw [List.mem_singleton] at hentry
  exact ⟨name, by rw [hentry], h⟩

theorem ProperName.next_eq {name : String} (h : ProperName name) (here : Location) :
    next here name = here ++ [name] := by
  simp [next, h.ne_empty, h.ne_dot, h.ne_dots]

theorem Sound.walk_self (hd : d.Sound) {n : Node} (h : d.node? l = some n) :
    d.walk [] l = .ok l := by
  induction l using List.reverseRecOn generalizing n with
  | nil => rfl
  | append_singleton l name ih =>
    obtain ⟨hl, hname⟩ := hd l name n h
    rw [walk_append_eq_ok_iff]
    refine ⟨l, ih hl, walk_cons_eq_ok_iff.mpr ⟨hl, hname.short, ?_⟩⟩
    rw [hname.next_eq]
    rfl

theorem Sound.properName (hd : d.Sound) {n : Node} (h : d.node? l = some n) :
    ∀ name ∈ l, ProperName name := by
  induction l using List.reverseRecOn generalizing n with
  | nil => simp
  | append_singleton l name ih =>
    obtain ⟨hl, hname⟩ := hd l name n h
    intro m hm
    rcases List.mem_append.mp hm with hm | hm
    · exact ih hl m hm
    · exact List.mem_singleton.mp hm ▸ hname

theorem toList_path (l : Location) :
    (Location.path l).toList = '/' :: Text.join '/' (l.map String.toList) := by
  rw [Location.path, String.toList_append, String.toList_intercalate]
  exact congrArg _ (Text.intercalate_eq_join '/' _)

/-- The absolute path of a place has a slash before each name. -/
theorem utf8ByteSize_path (hne : l ≠ []) :
    (Location.path l).utf8ByteSize = (l.map fun name => 1 + name.utf8ByteSize).sum := by
  have hslash : "/".utf8ByteSize = 1 := by decide
  rw [Location.path, String.utf8ByteSize_append, hslash]
  induction l with
  | nil => exact absurd rfl hne
  | cons name rest ih =>
    cases rest with
    | nil => simp
    | cons next rest =>
      rw [String.intercalate_cons_cons, String.utf8ByteSize_append, String.utf8ByteSize_append,
        hslash, List.map_cons, List.sum_cons, ← ih (List.cons_ne_nil _ _)]
      omega

/-- The names in the absolute path of a place are the names on the way to it. -/
theorem names_path (hne : l ≠ []) (h : ∀ name ∈ l, ProperName name) :
    names (Location.path l) = "" :: l := by
  have hsides : ∀ s ∈ l.map String.toList, '/' ∉ s := by
    intro s hs
    obtain ⟨name, hname, rfl⟩ := List.mem_map.mp hs
    exact (h name hname).slash
  have hpieces : Text.pieces '/' ('/' :: Text.join '/' (l.map String.toList)) =
      [] :: l.map String.toList := by
    rw [Text.pieces, if_pos rfl, Text.pieces_join (by simpa using hne) hsides]
  rw [names, toList_path, hpieces, List.map_cons, List.map_map]
  simp [Function.comp_def]

theorem expectName_path (h : ∀ name ∈ l, ProperName name) :
    expectName (Location.path l) = .ok () := by
  have hzero : '\x00' ∉ (Location.path l).toList := by
    rw [toList_path]
    intro hmem
    rcases List.mem_cons.mp hmem with hslash | hmem
    · cases hslash
    · rcases Text.mem_join hmem with hslash | ⟨s, hs, hmem⟩
      · cases hslash
      · obtain ⟨name, hname, rfl⟩ := List.mem_map.mp hs
        exact (h name hname).zero hmem
  have hne : Location.path l ≠ "" := by
    intro he
    have hlist := congrArg String.toList he
    rw [toList_path] at hlist
    cases hlist
  simp [expectName, hzero, hne]

/-- **A thing on a sound disk is found at its absolute path.** -/
theorem Sound.follow_path (hd : d.Sound) {n : Node} (h : d.node? l = some n) :
    d.follow (Location.path l) = .ok l := by
  have hnames := hd.properName h
  have hstart : d.start (Location.path l) = [] := by simp [start, toList_path]
  rw [follow, expectName_path hnames, hstart]
  show d.walk [] (names (Location.path l)) = .ok l
  by_cases hne : l = []
  · subst hne
    rfl
  · rw [names_path hne hnames, walk_cons_eq_ok_iff]
    exact ⟨node?_nil d, by decide, hd.walk_self h⟩

/-- Things that have the same absolute path are the same thing. -/
theorem Sound.path_inj (hd : d.Sound) {k : Location} {n m : Node} (hl : d.node? l = some n)
    (hk : d.node? k = some m) (h : Location.path l = Location.path k) : l = k := by
  have hfollow := hd.follow_path hl
  rw [h, hd.follow_path hk] at hfollow
  exact (Except.ok.inj hfollow).symm

/-! ## Looking things up -/

theorem lookup_eq_ok_iff {n : Node} :
    d.lookup p = .ok (l, n) ↔ d.locate p = .ok l ∧ d.node? l = some n := by
  rw [lookup, bind_eq_ok_iff]
  constructor
  · rintro ⟨k, hk, h⟩
    split at h
    · rename_i m hm
      cases h
      exact ⟨hk, hm⟩
    · cases h
  · rintro ⟨hl, hn⟩
    exact ⟨l, hl, by rw [hn]⟩

theorem locate_eq_ok_iff : d.locate p = .ok l ↔ expectPath p = .ok () ∧ d.follow p = .ok l := by
  rw [locate, bind_unit_eq_ok_iff]

theorem follow_eq_ok_iff :
    d.follow p = .ok l ↔ expectName p = .ok () ∧ d.walk (d.start p) (names p) = .ok l := by
  rw [follow, bind_unit_eq_ok_iff]

theorem read_eq_ok_iff {content : ByteArray} :
    d.read p = .ok content ↔ ∃ l, d.lookup p = .ok (l, .file content) := by
  rw [read, bind_eq_ok_iff]
  constructor
  · rintro ⟨⟨l, n⟩, hl, h⟩
    cases n with
    | file c => cases h; exact ⟨l, hl⟩
    | directory => cases h
  · rintro ⟨l, hl⟩
    exact ⟨_, hl, rfl⟩

/-- A file that can be read is found where its path leads. -/
theorem lookup_of_read {content : ByteArray} (hread : d.read p = .ok content)
    (hl : d.locate p = .ok l) : d.lookup p = .ok (l, .file content) := by
  obtain ⟨k, hk⟩ := read_eq_ok_iff.mp hread
  obtain rfl := Except.ok.inj ((lookup_eq_ok_iff.mp hk).1.symm.trans hl)
  exact hk

/-- What is looked up at its canonical path is the thing itself. -/
theorem Sound.lookup_path (hd : d.Sound) {k : Location} {n m : Node} (hl : d.node? l = some n)
    (h : d.lookup (Location.path l) = .ok (k, m)) : k = l := by
  have hfollow := (locate_eq_ok_iff.mp (lookup_eq_ok_iff.mp h).1).2
  rw [hd.follow_path hl] at hfollow
  exact (Except.ok.inj hfollow).symm

/-- What is looked up is asked for by a path that is not too long. -/
theorem utf8ByteSize_lt_of_lookup {n : Node} (h : d.lookup p = .ok (l, n)) :
    p.utf8ByteSize < 4096 := by
  obtain ⟨hexpect, _⟩ := locate_eq_ok_iff.mp (lookup_eq_ok_iff.mp h).1
  obtain ⟨_, hsize⟩ := bind_unit_eq_ok_iff.mp hexpect
  by_contra hlong
  rw [if_pos (Nat.not_lt.mp hlong)] at hsize
  cases hsize

/-- A thing is looked up at its absolute path unless that is too long. -/
theorem Sound.lookup_path_of_lt (hd : d.Sound) {n : Node} (hn : d.node? l = some n)
    (hshort : (Location.path l).utf8ByteSize < 4096) :
    d.lookup (Location.path l) = .ok (l, n) := by
  have hpath : expectPath (Location.path l) = .ok () := by
    rw [expectPath, expectName_path (hd.properName hn), if_neg (Nat.not_le.mpr hshort)]
    rfl
  rw [lookup_eq_ok_iff, locate_eq_ok_iff]
  exact ⟨⟨hpath, hd.follow_path hn⟩, hn⟩

theorem canonical?_eq_some_iff :
    d.canonical? p = some l ↔ d.follow p = .ok l ∧ (d.node? l).isSome = true := by
  unfold canonical?
  split
  · rename_i k hk
    split
    · rename_i hn
      simp only [hk, Option.some.injEq, Except.ok.injEq]
      exact ⟨fun h => h ▸ ⟨rfl, hn⟩, And.left⟩
    · rename_i hn
      simp only [hk, reduceCtorEq, false_iff, Except.ok.injEq]
      rintro ⟨rfl, h⟩
      exact hn h
  · rename_i e he
    simp [he]

/-- What is looked up has a canonical path. -/
theorem canonical?_of_lookup {n : Node} (h : d.lookup p = .ok (l, n)) :
    d.canonical? p = some l := by
  obtain ⟨hl, hn⟩ := lookup_eq_ok_iff.mp h
  exact canonical?_eq_some_iff.mpr ⟨(locate_eq_ok_iff.mp hl).2, by simp [hn]⟩

/-! ## Where a write goes -/

theorem slash_not_mem_of_mem_names {name : String} (h : name ∈ names p) : '/' ∉ name.toList := by
  obtain ⟨s, hs, rfl⟩ := List.mem_map.mp h
  rw [String.toList_ofList]
  exact Text.not_sep_mem_pieces hs

theorem zero_not_mem_of_mem_names {name : String} (hp : expectName p = .ok ())
    (h : name ∈ names p) : '\x00' ∉ name.toList := by
  obtain ⟨s, hs, rfl⟩ := List.mem_map.mp h
  rw [String.toList_ofList]
  intro hz
  have hmem := Text.mem_of_mem_pieces hs hz
  simp [expectName, hmem] at hp

theorem expectName_of_expectPath (h : expectPath p = .ok ()) : expectName p = .ok () := by
  obtain ⟨_, hname, _⟩ := bind_eq_ok_iff.mp h
  exact hname

/-- What is asked for when something new is put at a path. -/
theorem parentAndName_eq_ok {name : String} {slash : Bool}
    (h : d.parentAndName p = .ok (here, some name, slash)) :
    ∃ before voids, names p = before ++ name :: voids ∧ (slash = false → voids = []) ∧
      expectPath p = .ok () ∧ d.walk (d.start p) before = .ok here ∧
      d.node? here = some .directory ∧ name ≠ "" ∧ name ≠ "." ∧ name ≠ ".." := by
  obtain ⟨hpath, h⟩ := bind_unit_eq_ok_iff.mp h
  have hnames := List.reverse_reverse (names p)
  generalize (names p).reverse = reversed at h hnames
  dsimp only at h
  have hsplit := List.takeWhile_append_dropWhile (p := fun n : String => decide (n = ""))
    (l := reversed)
  have hhead := List.head?_dropWhile_not (fun n : String => decide (n = "")) reversed
  split at h
  · cases h
  · rename_i last before hrev
    rw [hrev] at hsplit hhead
    obtain ⟨there, hwalk, h⟩ := bind_eq_ok_iff.mp h
    obtain ⟨hdir, h⟩ := bind_unit_eq_ok_iff.mp h
    rw [expectDirectory_eq_ok_iff] at hdir
    simp only [Except.ok.injEq, Prod.mk.injEq, ite_eq_iff, reduceCtorEq, and_false,
      Option.some.injEq, false_or, Bool.or_eq_true, decide_eq_true_eq, not_or] at h
    obtain ⟨rfl, ⟨hdots, rfl⟩, hslash⟩ := h
    refine ⟨before.reverse, (reversed.takeWhile fun n => decide (n = "")).reverse, ?_, ?_, hpath,
      hwalk, hdir, by simpa using hhead, hdots.1, hdots.2⟩
    · rw [← hnames, ← hsplit]
      simp [hsplit]
    · intro hs
      rw [hs, decide_eq_false_iff_not] at hslash
      rw [List.reverse_eq_nil_iff, List.takeWhile_eq_nil_iff]
      intro hpos hvoid
      exact hslash (by simpa [List.head?_eq_getElem?, hpos] using hvoid)

/-- A new thing at a path has a proper name. -/
theorem properName_of_parentAndName {name : String} {slash : Bool}
    (h : d.parentAndName p = .ok (here, some name, slash)) (hshort : expectShort name = .ok ()) :
    ProperName name := by
  obtain ⟨before, voids, hnames, _, hpath, _, _, hne, hdot, hdots⟩ := parentAndName_eq_ok h
  have hmem : name ∈ names p := by simp [hnames]
  exact ⟨hne, hdot, hdots, slash_not_mem_of_mem_names hmem,
    zero_not_mem_of_mem_names (expectName_of_expectPath hpath) hmem,
    expectShort_eq_ok_iff.mp hshort⟩

/-- A write goes to a proper name in a directory, where no directory stands. -/
theorem writeTarget_eq_ok (h : d.writeTarget p = .ok l) :
    ∃ before here name, names p = before ++ [name] ∧ expectPath p = .ok () ∧
      d.walk (d.start p) before = .ok here ∧ d.node? here = some .directory ∧ ProperName name ∧
      l = here ++ [name] ∧ d.node? l ≠ some .directory := by
  obtain ⟨⟨here, name?, slash⟩, hparent, h⟩ := bind_eq_ok_iff.mp h
  split at h
  · rename_i here' name heq
    cases heq
    obtain ⟨hshort, h⟩ := bind_unit_eq_ok_iff.mp h
    obtain ⟨before, voids, hnames, hvoids, hpath, hwalk, hdir, _⟩ := parentAndName_eq_ok hparent
    rw [hvoids rfl] at hnames
    split at h
    · cases h
    · rename_i hnode
      cases h
      exact ⟨before, here, name, hnames, hpath, hwalk, hdir,
        properName_of_parentAndName hparent hshort, rfl, hnode⟩
  · cases h

/-- A path leads to the place at which a file is written through it. -/
theorem locate_of_writeTarget (h : d.writeTarget p = .ok l) : d.locate p = .ok l := by
  obtain ⟨before, here, name, hnames, hpath, hwalk, hdir, hname, rfl, _⟩ := writeTarget_eq_ok h
  refine locate_eq_ok_iff.mpr ⟨hpath, follow_eq_ok_iff.mpr ⟨expectName_of_expectPath hpath, ?_⟩⟩
  rw [hnames, walk_append_eq_ok_iff]
  refine ⟨here, hwalk, walk_cons_eq_ok_iff.mpr ⟨hdir, hname.short, ?_⟩⟩
  rw [hname.next_eq]
  rfl

end Disk

end ChordSheet
