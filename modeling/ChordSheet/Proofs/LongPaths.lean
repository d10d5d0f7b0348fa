import ChordSheet.Proofs.Tracking

/-!
# Paths that are too long

A path of 4096 bytes or more leads nowhere. A thing in a deep directory may be found by a short
path, though its absolute path is too long: then it cannot be watched. And the absolute path of a
sheet may be short enough while that of its transposition is not: then the sheet is watched, but a
change is not transposed, since the sheet that changed is known by its absolute path.

* `HostedSession.Tracks.act_watch_of_long` : what has too long a path is not watched.
* `HostedSession.Tracks.act_append_of_long` : what would be written to too long a path is not.
* `Disk.sound_alone` : a disk with one file, as deep as one likes, is sound.
-/

set_option autoImplicit false

namespace ChordSheet

/-! ## Sessions -/

namespace HostedSession

open Session

variable {x y : HostedSession} {text : String} {p : Path} {k : Key} {l : Location}
  {bytes : ByteArray}

/-- **A thing whose absolute path is too long is not watched**, though it may be transposed. -/
theorem Tracks.act_watch_of_long (hx : x.Tracks) (hopen : x.session.ended = false)
    (hc : CallsFor x.session.context.config text .watch p k)
    (hl : x.host.disk.canonical? p = some l) (hlong : 4096 ≤ l.path.utf8ByteSize) :
    ∃ e, x.act (.line text) = ([refused "watch" p e], x) := by
  rcases hx.step_watch hopen hc with ⟨hrefused, _⟩ | ⟨m, hw⟩
  · exact hrefused
  · obtain rfl := Option.some.inj (hw.canonical?.symm.trans hl)
    obtain ⟨n, hm⟩ := hw.lookup
    exact absurd (Disk.utf8ByteSize_lt_of_lookup hm) (Nat.not_lt.mpr hlong)

/-- **An append to a sheet whose transposition would have too long a path** is no more than that,
whether the sheet is watched or not. -/
theorem Tracks.act_append_of_long (hx : x.Tracks) (hopen : x.session.ended = false)
    {content : ByteArray} (hl : x.host.disk.lookup p = .ok (l, .file content))
    (hne : bytes.size ≠ 0)
    (hlong : ∀ k, 4096 ≤
      (Path.output l.path x.session.context.config.outputSuffix k).utf8ByteSize) :
    (x.act (.append p bytes)).2 = x.appended p bytes := by
  rw [hx.act_append hopen hl hne]
  cases x.session.watches.keyOf? l.path with
  | none => rfl
  | some k =>
    dsimp only
    rw [HostedSession.transposed, Host.transposed]
    exact congrArg (fun disk => HostedSession.mk ⟨disk, _⟩ x.session)
      (Disk.transposed_of_long (hlong k))

theorem disk_appended (h : y.host.disk = x.host.disk) (p : Path) (bytes : ByteArray) :
    (y.appended p bytes).host.disk = (x.appended p bytes).host.disk := by
  simp only [HostedSession.appended, Host.append, h]
  split
  · rfl
  · exact h

/-- A sheet whose transposition has too long an absolute path is transposed when it is watched, but
not when it changes. -/
theorem Tracks.play_watch_append_of_long (hx : x.Tracks) (hopen : x.session.ended = false)
    (hc : CallsFor x.session.context.config text .watch p k) {content : ByteArray}
    (hl : x.host.disk.lookup p = .ok (l, .file content)) (hshort : l.path.utf8ByteSize < 4096)
    (hne : bytes.size ≠ 0)
    (hlong : ∀ k, 4096 ≤
      (Path.output l.path x.session.context.config.outputSuffix k).utf8ByteSize) :
    (x.play [.line text, .append p bytes]).2.host.disk =
      ((x.transposed p k).appended p bytes).host.disk := by
  rw [play_cons, play_cons]
  show ((x.step (.line text)).2.act (.append p bytes)).2.host.disk = _
  have hlookup := hx.sound.lookup_path_of_lt (Disk.lookup_eq_ok_iff.mp hl).2 hshort
  rcases hx.step_watch hopen hc with ⟨_, hnone⟩ | ⟨m, hw⟩
  · exact absurd hlookup (hnone l _ (Disk.canonical?_of_lookup hl))
  · obtain ⟨content', hl'⟩ := hw.grows.lookup_file hl
    have hopen' : (x.step (.line text)).2.session.ended = false := by
      rw [hw.session]
      exact hopen
    rw [(hw.tracks hx).act_append_of_long hopen' hl' hne (by rwa [hw.session])]
    exact disk_appended (x := x.transposed p k) hw.disk p bytes

end HostedSession

/-! ## Deep directories -/

namespace Disk

variable {d : Disk} {l here : Location} {name : String} {content : ByteArray}

/-- What has the only entry of a place stands there. -/
theorem node?_of_mem {n : Node} (hmem : (l, n) ∈ d.nodes) (honly : ∀ m, (l, m) ∈ d.nodes → m = n)
    (hne : l ≠ []) : d.node? l = some n := by
  rw [node?, if_neg hne]
  cases hlookup : d.nodes.lookup l with
  | none => simpa using List.lookup_eq_none_iff.mp hlookup _ hmem
  | some m =>
    obtain ⟨before, after, hnodes, -⟩ := List.lookup_eq_some_iff.mp hlookup
    rw [honly m (by simp [hnodes])]

/-- A disk with one file, in the working directory. -/
def alone (here : Location) (name : String) (content : ByteArray) : Disk :=
  ⟨(here ++ [name], .file content) ::
    (List.range here.length).map fun n => (here.take (n + 1), .directory), here⟩

theorem node?_alone {n : Nat} (hn : n ≤ here.length) :
    (alone here name content).node? (here.take n) = some .directory := by
  cases n with
  | zero => rfl
  | succ n =>
    have hlength : (here.take (n + 1)).length = n + 1 := List.length_take_of_le hn
    refine node?_of_mem ?_ ?_ (List.ne_nil_of_length_eq_add_one hlength)
    · exact List.mem_cons_of_mem _ (List.mem_map_of_mem (List.mem_range.mpr hn))
    · intro m hm
      rcases List.mem_cons.mp hm with hfile | hdirectory
      · have hlong := congrArg List.length (Prod.mk.inj hfile).1
        rw [hlength, List.length_append, List.length_singleton] at hlong
        omega
      · obtain ⟨_, _, he⟩ := List.mem_map.mp hdirectory
        exact (Prod.mk.inj he).2.symm

theorem sound_alone (h : ∀ n ∈ here ++ [name], ProperName n) (content : ByteArray) :
    (alone here name content).Sound := by
  refine sound_of_entries fun entry hentry => ?_
  rw [expectDirectory_eq_ok_iff]
  rcases List.mem_cons.mp hentry with rfl | hentry
  · rw [List.dropLast_concat, List.getLast?_concat]
    refine ⟨?_, fun last hlast => ?_⟩
    · have hhere : (alone here name content).node? (here.take here.length) = some .directory :=
        node?_alone (Nat.le_refl here.length)
      rwa [List.take_length] at hhere
    · exact h last (List.mem_append_right _ (by simpa using hlast.symm))
  · obtain ⟨n, hn, rfl⟩ := List.mem_map.mp hentry
    have hlt : n < here.length := List.mem_range.mp hn
    refine ⟨?_, fun last hlast => ?_⟩
    · have hparent : (here.take (n + 1)).dropLast = here.take n := by
        rw [List.dropLast_eq_take, List.length_take_of_le hlt, List.take_take]
        simp
      show (alone here name content).node? (here.take (n + 1)).dropLast = _
      rw [hparent]
      exact node?_alone (Nat.le_of_lt hlt)
    · exact h last (List.mem_append_left _ (List.mem_of_mem_take (List.mem_of_getLast? hlast)))

theorem properName_replicate {n : Nat} (hpos : 0 < n) (hshort : n ≤ 255) :
    ProperName (String.ofList (List.replicate n 'a')) := by
  have hmem : 'a' ∈ (String.ofList (List.replicate n 'a')).toList := by
    rw [String.toList_ofList]
    exact List.mem_replicate.mpr ⟨hpos.ne', rfl⟩
  have hother : ∀ c ∈ (String.ofList (List.replicate n 'a')).toList, c = 'a' := by
    rw [String.toList_ofList]
    exact fun c => List.eq_of_mem_replicate
  have hne : ∀ s : String, 'a' ∉ s.toList → String.ofList (List.replicate n 'a') ≠ s := by
    rintro s hs rfl
    exact hs hmem
  refine ⟨hne _ (by decide), hne _ (by decide), hne _ (by decide), ?_, ?_, ?_⟩
  · intro hslash
    cases hother _ hslash
  · intro hzero
    cases hother _ hzero
  · rw [Text.utf8ByteSize_ofList, Text.byteLength_replicate]
    exact (Nat.mul_one n).trans_le hshort

/-- A directory in fifteen others. Their names have 255 bytes, and its own has as many as asked
for. -/
def deepDirectory (last : Nat) : Location :=
  List.replicate 15 (String.ofList (List.replicate 255 'a')) ++
    [String.ofList (List.replicate last 'a')]

theorem properName_of_mem_deep {last : Nat} (hpos : 0 < last) (hshort : last ≤ 255)
    (hname : ProperName name) : ∀ n ∈ deepDirectory last ++ [name], ProperName n := by
  intro n hn
  rw [deepDirectory, List.append_assoc, List.mem_append, List.mem_replicate] at hn
  rcases hn with ⟨-, rfl⟩ | hn
  · exact properName_replicate (by decide) (by decide)
  · rcases List.mem_pair.mp hn with rfl | rfl
    · exact properName_replicate hpos hshort
    · exact hname

theorem utf8ByteSize_path_deep (last : Nat) (name : String) :
    (Location.path (deepDirectory last ++ [name])).utf8ByteSize =
      3842 + last + name.utf8ByteSize := by
  have hsize : ∀ n, (String.ofList (List.replicate n 'a')).utf8ByteSize = n := fun n =>
    (Text.utf8ByteSize_ofList _).trans ((Text.byteLength_replicate n 'a').trans (Nat.mul_one n))
  rw [utf8ByteSize_path (by simp), deepDirectory]
  simp only [List.map_append, List.map_replicate, List.map_singleton, hsize, List.sum_append,
    List.sum_replicate_nat, List.sum_singleton]
  omega

/-- A disk with one sheet, in a deep directory that is the working directory. -/
def deep (last : Nat) : Disk :=
  alone (deepDirectory last) "song.txt" "Key: G\nG/D    Em\n".toUTF8

theorem sound_deep {last : Nat} (hpos : 0 < last) (hshort : last ≤ 255) : (deep last).Sound :=
  sound_alone (properName_of_mem_deep hpos hshort (by decide)) _

end Disk

end ChordSheet
