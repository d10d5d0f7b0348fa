import ChordSheet.Proofs.LongPaths
import ChordSheet.Proofs.PlainSession
import ChordSheet.Proofs.TornWrites

/-!
# Watch mode is plain transposition, repeated

A session in which sheets are watched leaves the same files as the plain sessions that stand for it.
Both are kept alike step by step: they have the same files and settings, and the record of what is
watched agrees with the table of the session that watches, while nothing but directories is
subscribed for in the plain one.

The notifier can tell of changes at any time, also of such as the session made itself by writing a
transposition to a file that is watched. Each of these counts as one transposition more. The plain
session knows of them what the watching session is told, so it makes no difference when and how
often that is.

A host writes completely or not at all. On other computers a write can break off; what a sheet that
changed costs there is said apart.

* `HostedSession.Agrees` : the record holds the watched files and their keys.
* `HostedSession.Alike` : the invariant that ties a session to a plain one.
* `HostedSession.Alike.step` : it is kept step by step.
* `HostedSession.run_step_changed` : what a change of a watched sheet leaves on any computer.
* `HostedSession.watch_mode` : both sessions leave the same files.
* `HostedSession.watch_mode_parts` : where a session does not leave the files of a plain one that
  knows only of lines and appends.
-/

set_option autoImplicit false

namespace ChordSheet

namespace HostedSession

open Session

variable {x y : HostedSession} {z : List Message × HostedSession} {w w' : Record} {text : String}
  {p : Path} {k : Key} {l : Location} {bytes : ByteArray}

/-! ## The record of what is watched -/

/-- The record holds the watched files of a session and their keys. -/
def Agrees (w : Record) (x : HostedSession) : Prop :=
  ∀ l k, w l = some k ↔ (∃ content, x.host.disk.node? l = some (.file content)) ∧
    x.session.watches.keyOf? l.path = some k

/-- The table holds no path of a file that is yet to be made. -/
theorem Tracks.file_of_grows (hx : x.Tracks) {d : Disk} (hgrows : x.host.disk.Grows d)
    {content : ByteArray} (hfile : d.node? l = some (.file content))
    (hk : x.session.watches.keyOf? l.path = some k) :
    ∃ before, x.host.disk.node? l = some (.file before) := by
  obtain ⟨m, n, hpath, hm, _⟩ := hx.found _ k hk
  have hnode := (Disk.lookup_eq_ok_iff.mp hm).2
  obtain ⟨n', hn', _⟩ := hgrows.keeps m n hnode
  obtain rfl := (hgrows.sound hx.sound).path_inj hfile hn' hpath
  exact hgrows.file_of_file hnode hfile

theorem Agrees.grows (h : Agrees w x) (hx : x.Tracks)
    (hgrows : x.host.disk.Grows y.host.disk) (hwatches : y.session.watches = x.session.watches) :
    Agrees w y := by
  intro l k
  rw [h l k, hwatches]
  constructor
  · rintro ⟨⟨content, hfile⟩, hk⟩
    exact ⟨hgrows.file hfile, hk⟩
  · rintro ⟨⟨content, hfile⟩, hk⟩
    exact ⟨hx.file_of_grows hgrows hfile hk, hk⟩

theorem Agrees.watched (h : Agrees w x) (hx : x.Tracks) (hw : Watched x p k l z)
    {content : ByteArray} (hfile : x.host.disk.node? l = some (.file content)) :
    Agrees (Function.update w l (some k)) z.2 := by
  intro m j
  by_cases hm : m = l
  · subst hm
    have hkey : z.2.session.watches.keyOf? (Location.path m) = some k := by
      rw [hw.session, WatchTable.keyOf?_set, if_pos rfl]
    rw [Function.update_self, hkey, and_iff_right (hw.grows.file hfile)]
  · rw [Function.update_of_ne hm, h m j]
    constructor
    · rintro ⟨⟨c, hc⟩, hj⟩
      obtain ⟨c', hc'⟩ := hw.grows.file hc
      exact ⟨⟨c', hc'⟩, (hw.keyOf?_of_ne hx hm hc').trans hj⟩
    · rintro ⟨⟨c, hc⟩, hj⟩
      rw [hw.keyOf?_of_ne hx hm hc] at hj
      exact ⟨hx.file_of_grows hw.grows hc hj, hj⟩

/-- A directory that is watched is no watched file. -/
theorem Agrees.watched_directory (h : Agrees w x) (hx : x.Tracks)
    (hw : Watched x p k l z) (hdirectory : x.host.disk.node? l = some .directory) :
    Agrees w z.2 := by
  intro m j
  have hne : ∀ {c}, z.2.host.disk.node? m = some (.file c) → m ≠ l := by
    rintro c hc rfl
    rw [hw.grows.directory hdirectory] at hc
    cases hc
  rw [h m j]
  constructor
  · rintro ⟨⟨c, hc⟩, hj⟩
    obtain ⟨c', hc'⟩ := hw.grows.file hc
    exact ⟨⟨c', hc'⟩, (hw.keyOf?_of_ne hx (hne hc') hc').trans hj⟩
  · rintro ⟨⟨c, hc⟩, hj⟩
    rw [hw.keyOf?_of_ne hx (hne hc) hc] at hj
    exact ⟨hx.file_of_grows hw.grows hc hj, hj⟩

theorem Agrees.forget (h : Agrees w x)
    (hk : x.session.watches.keyOf? l.path = none) : Agrees (Function.update w l none) x := by
  intro m j
  by_cases hm : m = l
  · subst hm
    simp [hk]
  · rw [Function.update_of_ne hm, h m j]

theorem Agrees.unwatched (h : Agrees w x) (hx : x.Tracks) (hw : Unwatched x p l z) :
    Agrees (Function.update w l none) z.2 := by
  intro m j
  rw [hw.disk]
  by_cases hm : m = l
  · subst hm
    simp [hw.session, WatchTable.keyOf?_erase]
  · rw [Function.update_of_ne hm, h m j]
    refine and_congr_right fun ⟨c, hc⟩ => ?_
    rw [hw.keyOf?_of_ne hx hm hc]

/-! ## Sessions that are alike -/

/-- A session and a plain one have the same files and settings, the record says what the first one
watches, and the second one watches no file. -/
structure Alike (w : Record) (x y : HostedSession) : Prop where
  disk : y.host.disk = x.host.disk
  context : y.session.context = x.session.context
  ended : y.session.ended = x.session.ended
  tracks : x.Tracks
  plain : y.Tracks
  agrees : x.session.ended = false → Agrees w x
  directories : ∀ l ∈ y.host.subscribed, y.host.disk.node? l = some .directory

theorem alike_new {disk : Disk} (hd : disk.Sound) (context : Context) :
    Alike (fun _ => none) (new disk context) (new disk context) := by
  refine ⟨rfl, rfl, rfl, tracks_new hd context, tracks_new hd context, ?_, ?_⟩
  · intro _ l k
    constructor
    · intro h
      cases h
    · rintro ⟨_, h⟩
      cases h
  · intro l hl
    cases hl

theorem Alike.transposed (h : Alike w x y) (p : Path) (k : Key) :
    Alike w (x.transposed p k) (y.transposed p k) := by
  have hgrows : x.host.disk.Grows (x.transposed p k).host.disk := Disk.grows_transposed _ _ _ _
  refine ⟨?_, h.context, h.ended, h.tracks.transposed p k, h.plain.transposed p k, ?_, ?_⟩
  · simp only [HostedSession.transposed, Host.transposed, h.disk, h.context]
  · intro hopen
    exact (h.agrees hopen).grows h.tracks hgrows rfl
  · intro l hl
    exact (Disk.grows_transposed _ _ _ _).directory (h.directories l hl)

theorem Alike.appended (h : Alike w x y) (p : Path) (bytes : ByteArray) :
    Alike w (x.appended p bytes) (y.appended p bytes) := by
  have hsubscribed : (y.appended p bytes).host.subscribed = y.host.subscribed := by
    rw [HostedSession.appended, Host.append]
    split <;> rfl
  refine ⟨?_, h.context, h.ended, h.tracks.appended p bytes, h.plain.appended p bytes, ?_, ?_⟩
  · rw [HostedSession.appended, HostedSession.appended, Host.append, Host.append, h.disk]
    split <;> simp [h.disk]
  · intro hopen
    exact (h.agrees hopen).grows h.tracks (grows_appended h.tracks.sound p bytes) rfl
  · intro l hl
    rw [hsubscribed] at hl
    exact (grows_appended h.plain.sound p bytes).directory (h.directories l hl)

/-! ## One step -/

/-- To watch a directory changes no file, since it cannot be transposed. -/
theorem Watched.disk_eq_of_directory (hw : Watched x p k l z)
    (hdirectory : x.host.disk.node? l = some .directory) : z.2.host.disk = x.host.disk := by
  rw [hw.disk, Disk.transposed_of_directory hw.canonical? hdirectory]

/-- A line that asks to watch what is no file, or has too long a path, is refused, or it watches a
directory. -/
theorem Tracks.step_watch_of_not_file (hx : x.Tracks) (hopen : x.session.ended = false)
    (hc : CallsFor x.session.context.config text .watch p k)
    (hno : ∀ l, NamesFile x.host.disk p l → 4096 ≤ l.path.utf8ByteSize) :
    (x.step (.line text)).2 = x ∨
      ∃ l, Watched x p k l (x.step (.line text)) ∧ x.host.disk.node? l = some .directory := by
  rcases hx.step_watch hopen hc with ⟨⟨e, hsame⟩, _⟩ | ⟨l, hw⟩
  · exact .inl (congrArg Prod.snd hsame)
  · obtain ⟨n, hl⟩ := hw.lookup
    have hn := (Disk.lookup_eq_ok_iff.mp hl).2
    cases n with
    | file content =>
      have hlong := hno l ⟨hw.canonical?, content, hn⟩
      exact absurd (Disk.utf8ByteSize_lt_of_lookup hl) (Nat.not_lt.mpr hlong)
    | directory => exact .inr ⟨l, hw, hn⟩

theorem Alike.of_ended (h : Alike w x y) (hended : x.session.ended = true) : Alike w' x y :=
  { h with agrees := fun hopen => by rw [hended] at hopen; cases hopen }

/-- What the first session watches can change, as long as the record says so. -/
theorem Alike.of_watches {x' : HostedSession} {watches : WatchTable} (h : Alike w x y)
    (hdisk : x'.host.disk = x.host.disk)
    (hsession : x'.session = { x.session with watches := watches }) (hx : x'.Tracks)
    (hagrees : Agrees w' x') : Alike w' x' y := by
  refine ⟨h.disk.trans hdisk.symm, ?_, ?_, hx, h.plain, fun _ => hagrees, h.directories⟩
  · rw [hsession]
    exact h.context
  · rw [hsession]
    exact h.ended

/-- A line that asks to watch a file, and a transposition in its place. -/
theorem Alike.watch {b : PlainAction} (h : Alike w x y) (hopen : x.session.ended = false)
    (hc : CallsFor y.session.context.config text .watch p k) (hl : NamesFile y.host.disk p l)
    (hshort : l.path.utf8ByteSize < 4096) (hb : Transposes y p k b) :
    Alike (Function.update w l (some k)) (x.step (.line text)).2 (y.perform b) := by
  obtain ⟨hcanonical, content, hfile⟩ := hl
  rw [h.context] at hc
  rw [h.disk] at hcanonical hfile
  have hlookup := h.tracks.sound.lookup_path_of_lt hfile hshort
  rw [hb.perform_eq (h.ended.trans hopen) h.plain.sound]
  rcases h.tracks.step_watch hopen hc with ⟨_, hnone⟩ | ⟨m, hw⟩
  · exact absurd hlookup (hnone l _ hcanonical)
  · obtain rfl : m = l := Option.some.inj (hw.canonical?.symm.trans hcanonical)
    exact (h.transposed p k).of_watches hw.disk hw.session (hw.tracks h.tracks)
      ((h.agrees hopen).watched h.tracks hw hfile)

/-- A line that asks to unwatch, and nothing in its place. -/
theorem Alike.unwatch (h : Alike w x y) (hopen : x.session.ended = false)
    (hc : Calls text .unwatch p) :
    Alike (w.forget (y.host.disk.canonical? p)) (x.step (.line text)).2 y := by
  rw [h.disk]
  rcases h.tracks.step_unwatch hopen hc with ⟨hsame, hnone⟩ | ⟨l, hw⟩
  · rw [hsame]
    cases hp : x.host.disk.canonical? p with
    | none => exact h
    | some l => exact { h with agrees := fun ho => (h.agrees ho).forget (hnone l hp) }
  · rw [hw.canonical?]
    exact h.of_watches hw.disk hw.session (hw.tracks h.tracks)
      ((h.agrees hopen).unwatched h.tracks hw)

theorem Alike.watched_directory (h : Alike w x y)
    (hopen : x.session.ended = false) (hw : Watched x p k l z)
    (hdirectory : x.host.disk.node? l = some .directory) : Alike w z.2 y :=
  h.of_watches (hw.disk_eq_of_directory hdirectory) hw.session (hw.tracks h.tracks)
    ((h.agrees hopen).watched_directory h.tracks hw hdirectory)

theorem Alike.plain_watched_directory (h : Alike w x y)
    (hw : Watched y p k l z) (hdirectory : y.host.disk.node? l = some .directory) :
    Alike w x z.2 := by
  have hdisk := hw.disk_eq_of_directory hdirectory
  refine ⟨?_, ?_, ?_, h.tracks, hw.tracks h.plain, h.agrees, ?_⟩
  · rw [hdisk]
    exact h.disk
  · rw [hw.session]
    exact h.context
  · rw [hw.session]
    exact h.ended
  · intro m hm
    rw [hdisk]
    rcases (hw.mem_subscribed h.plain m).mp hm with rfl | hm
    · exact hdirectory
    · exact h.directories m hm

/-- Any other line, in both sessions. -/
theorem Alike.line (h : Alike w x y) (hopen : x.session.ended = false)
    (hwatch : ∀ p k l, CallsFor y.session.context.config text .watch p k →
      NamesFile y.host.disk p l → 4096 ≤ l.path.utf8ByteSize)
    (hunwatch : ∀ p, ¬ Calls text .unwatch p) :
    Alike w (x.step (.line text)).2 (y.step (.line text)).2 := by
  by_cases hc : ∃ p k, CallsFor y.session.context.config text .watch p k
  · obtain ⟨p, k, hc⟩ := hc
    have hx : Alike w (x.step (.line text)).2 y := by
      have hno : ∀ l, NamesFile x.host.disk p l → 4096 ≤ l.path.utf8ByteSize :=
        fun l => h.disk ▸ hwatch p k l hc
      rcases h.tracks.step_watch_of_not_file hopen (h.context ▸ hc) hno with hsame | ⟨l, hw, hd⟩
      · rw [hsame]
        exact h
      · exact h.watched_directory hopen hw hd
    rcases h.plain.step_watch_of_not_file (h.ended.trans hopen) hc (fun l => hwatch p k l hc) with
      hsame | ⟨l, hw, hd⟩
    · rw [hsame]
      exact hx
    · exact hx.plain_watched_directory hw hd
  · simp only [not_exists] at hc
    -- the line depends on the disk and the settings alone, and both sessions have the same
    obtain ⟨⟨d, subscribed⟩, ⟨context, watches, ended⟩⟩ := x
    obtain ⟨⟨d', subscribed'⟩, ⟨context', watches', ended'⟩⟩ := y
    obtain rfl : d' = d := h.disk
    obtain rfl : context' = context := h.context
    obtain rfl : ended = false := hopen
    obtain rfl : ended' = false := h.ended
    have htracks := h.tracks.step_line text
    have hplain := h.plain.step_line text
    obtain ⟨e, after, ended, hgrows, hstep⟩ := step_line_eq hc hunwatch d'
    rw [hstep subscribed watches] at htracks ⊢
    rw [hstep subscribed' watches'] at hplain ⊢
    refine ⟨rfl, rfl, rfl, htracks, hplain, ?_, ?_⟩
    · intro _
      exact (h.agrees rfl).grows h.tracks hgrows rfl
    · intro l hl
      exact hgrows.directory (h.directories l hl)

/-- The plain session watches no file. -/
theorem Alike.plain_keyOf? {content : ByteArray} (h : Alike w x y)
    (hl : y.host.disk.lookup p = .ok (l, .file content)) :
    y.session.watches.keyOf? l.path = none := by
  have hnode := (Disk.lookup_eq_ok_iff.mp hl).2
  rw [Option.eq_none_iff_forall_ne_some]
  intro j hj
  obtain ⟨m, n, hpath, hm, hmem⟩ := h.plain.found _ j hj
  rw [h.plain.sound.lookup_path hnode hm] at hmem
  rw [h.directories l hmem] at hnode
  cases hnode

/-- An append to a file that is not watched is no more than that. -/
theorem Tracks.act_append_of_none (hx : x.Tracks)
    (h : ∀ l content, x.host.disk.lookup p = .ok (l, .file content) →
      x.session.watches.keyOf? l.path = none ∨ bytes.size = 0) :
    x.act (.append p bytes) = ([], x.appended p bytes) := by
  by_cases hl : ∃ l content, x.host.disk.lookup p = .ok (l, .file content)
  · obtain ⟨l, content, hl⟩ := hl
    by_cases hquiet : x.session.ended = true ∨ bytes.size = 0
    · refine act_append_of_quiet (hquiet.imp_right fun he => ?_)
      rw [appended_of_file hl]
      simp [he]
    · obtain ⟨hopen, hne⟩ := not_or.mp hquiet
      have hnone := (h l content hl).resolve_right hne
      rw [hx.act_append (by simpa using hopen) hl hne, hnone]
  · simp only [not_exists] at hl
    refine act_append_of_quiet (.inr ?_)
    rw [appended_of_not_file hl]

theorem Alike.plain_act_append (h : Alike w x y) (p : Path) (bytes : ByteArray) :
    (y.act (.append p bytes)).2 = y.appended p bytes :=
  congrArg Prod.snd (h.plain.act_append_of_none fun _ _ hl => .inl (h.plain_keyOf? hl))

/-- An append to a watched file, and a transposition after it. -/
theorem Alike.change {content : ByteArray} {b : PlainAction} (h : Alike w x y)
    (hopen : x.session.ended = false) (hl : y.host.disk.lookup p = .ok (l, .file content))
    (hk : w l = some k) (hne : bytes.size ≠ 0)
    (hb : Transposes (y.perform (.action (.append p bytes))) l.path k b) :
    Alike w (x.act (.append p bytes)).2 ((y.perform (.action (.append p bytes))).perform b) := by
  have hplain : y.perform (.action (.append p bytes)) = y.appended p bytes :=
    h.plain_act_append p bytes
  rw [hplain] at hb ⊢
  have hboth := h.appended p bytes
  rw [hb.perform_eq (hboth.ended.trans hopen) hboth.plain.sound,
    h.tracks.act_append hopen (h.disk ▸ hl) hne, ((h.agrees hopen l k).mp hk).2]
  exact hboth.transposed l.path k

/-- Any other append, in both sessions. -/
theorem Alike.append (h : Alike w x y) (hopen : x.session.ended = false)
    (hl : ∀ l content, y.host.disk.lookup p = .ok (l, .file content) →
      w l = none ∨ bytes.size = 0) :
    Alike w (x.act (.append p bytes)).2 (y.act (.append p bytes)).2 := by
  have hx : x.act (.append p bytes) = ([], x.appended p bytes) := by
    refine h.tracks.act_append_of_none fun l content hlookup => ?_
    refine (hl l content (h.disk ▸ hlookup)).imp_left fun hnone => ?_
    rw [Option.eq_none_iff_forall_ne_some]
    intro k hk
    have hfile := (Disk.lookup_eq_ok_iff.mp hlookup).2
    rw [(h.agrees hopen l k).mpr ⟨⟨content, hfile⟩, hk⟩] at hnone
    cases hnone
  rw [hx, h.plain_act_append p bytes]
  exact h.appended p bytes

/-- A change of a watched file of which a session is told, and a transposition in its place. -/
theorem Alike.told {b : PlainAction} (h : Alike w x y) (hopen : x.session.ended = false)
    (hl : NamesFile y.host.disk p l) (hk : w l = some k) (hb : Transposes y p k b) :
    Alike w (x.step (.changed p)).2 (y.perform b) := by
  rw [hb.perform_eq (h.ended.trans hopen) h.plain.sound, step_changed hopen,
    Host.canonical_eq_path (h.disk ▸ hl.1), ((h.agrees hopen l k).mp hk).2]
  exact h.transposed p k

/-- A change of anything but a watched file changes no file. -/
theorem Alike.untold (h : Alike w x y) (hopen : x.session.ended = false)
    (hl : ∀ l, NamesFile y.host.disk p l → w l = none) : (x.step (.changed p)).2 = x := by
  rw [step_changed hopen]
  cases hk : x.session.watches.keyOf? (x.host.canonical p) with
  | none => rfl
  | some k =>
    obtain ⟨l, n, hcanonical, hpath, hlookup, _⟩ := h.tracks.canonical? hk
    have hn := (Disk.lookup_eq_ok_iff.mp hlookup).2
    cases n with
    | file content =>
      have hrecord := (h.agrees hopen l k).mpr ⟨⟨content, hn⟩, hpath ▸ hk⟩
      rw [hl l ⟨h.disk ▸ hcanonical, content, h.disk ▸ hn⟩] at hrecord
      cases hrecord
    | directory =>
      show x.transposed p k = x
      rw [HostedSession.transposed, Host.transposed, Disk.transposed_of_directory hcanonical hn]

/-- In sessions that are over, nothing but appends counts. -/
theorem Alike.step_of_ended {a : Action} {bs : List PlainAction} (h : Alike w x y)
    (hended : x.session.ended = true) (hs : PlainStep y w a bs w') :
    Alike w' (x.act a).2 (y.performAll bs) := by
  have hy : y.session.ended = true := h.ended.trans hended
  have hx : ∀ text, x.act (.line text) = ([], x) :=
    fun text => HostedSession.step_of_ended hended (.line text)
  have happend : ∀ p bytes, x.act (.append p bytes) = ([], x.appended p bytes) :=
    fun p bytes => act_append_of_quiet (.inl hended)
  have htold : ∀ p, x.act (.told p) = ([], x) :=
    fun p => HostedSession.step_of_ended hended (.changed p)
  cases hs with
  | watch _ _ _ hb =>
    rw [hx]
    show Alike _ x (y.perform _)
    rw [hb.perform_of_ended hy]
    exact h.of_ended hended
  | unwatch _ =>
    rw [hx]
    exact h.of_ended hended
  | line _ _ =>
    rw [hx]
    show Alike _ x (y.step _).2
    rw [HostedSession.step_of_ended hy]
    exact h
  | @change p bytes _ l k b _ _ _ hb =>
    have hplain : y.perform (.action (.append p bytes)) = y.appended p bytes :=
      h.plain_act_append p bytes
    rw [happend]
    show Alike _ _ ((y.perform (.action (.append p bytes))).perform b)
    rw [hplain] at hb ⊢
    rw [hb.perform_of_ended hy]
    exact h.appended p bytes
  | @append p bytes _ =>
    rw [happend]
    show Alike _ _ (y.act (.append p bytes)).2
    rw [h.plain_act_append]
    exact h.appended p bytes
  | told _ _ hb =>
    rw [htold]
    show Alike _ x (y.perform _)
    rw [hb.perform_of_ended hy]
    exact h
  | untold _ =>
    rw [htold]
    exact h

/-- **Alike sessions stay alike**, step by step. -/
theorem Alike.step {a : Action} {bs : List PlainAction} (h : Alike w x y)
    (hs : PlainStep y w a bs w') : Alike w' (x.act a).2 (y.performAll bs) := by
  cases hopen : x.session.ended with
  | true => exact h.step_of_ended hopen hs
  | false =>
    cases hs with
    | watch hc hl hshort hb => exact h.watch hopen hc hl hshort hb
    | unwatch hc => exact h.unwatch hopen hc
    | line hwatch hunwatch => exact h.line hopen hwatch hunwatch
    | change hl hk hne hb => exact h.change hopen hl hk hne hb
    | append hl => exact h.append hopen hl
    | told hl hk hb => exact h.told hopen hl hk hb
    | @untold p hl =>
      show Alike _ (x.step (.changed p)).2 y
      rw [h.untold hopen hl]
      exact h

/-- Alike sessions leave the same files. -/
theorem Alike.play {as : List Action} {bs : List PlainAction} (h : Alike w x y)
    (hs : Plain y w as bs) : (y.performAll bs).host.disk = (x.play as).2.host.disk := by
  induction hs generalizing x with
  | nil => exact h.disk
  | @cons y w w' a as bs cs hstep _ ih =>
    have hboth := h.step hstep
    rw [performAll, List.foldl_append]
    exact ih hboth

/-! ## Transpositions that fail -/

/-- **A change of a watched sheet, on any computer.** The session is as it was, and no file but that
of the transposition has changed. If there is no transposition, no file has changed at all, unless
it is the write that failed. -/
theorem run_step_changed {σ : Type} [FileSystem (StateM σ)] [Notifier (StateM σ)] [FileView σ]
    [LawfulFiles σ] {s : Session} {before : σ} (hopen : s.ended = false)
    (hk : (s.watches.keyFor? p : StateM σ (Option Key)).run before = (some k, before)) :
    ∃ (result : Except Failure Outcome) (after : σ),
      (s.step (.changed p) : StateM σ (List Message × Session)).run before =
        ((fileChanged p :: messages (Command.reported result), s), after) ∧
      FileView.ChangedAt (Path.output p s.context.config.outputSuffix k) before after ∧
      ∀ f, result = .error f → (∀ q e, f ≠ .write q e) → after = before := by
  have hrun : (s.step (.changed p) : StateM σ (List Message × Session)).run before =
      let run := (SheetFile.transpose p s.context.config.outputSuffix k :
        StateM σ (Except Failure Outcome)).run before
      ((fileChanged p :: messages (Command.reported run.1), s), run.2) := by
    rw [Session.step, if_neg (by simp [hopen]), run_bind, change, run_bind, hk]
    dsimp only
    rw [Session.transpose_eq]
    rfl
  rw [hrun]
  refine ⟨_, _, rfl, ?_⟩
  rcases SheetFile.run_transpose p s.context.config.outputSuffix k before with
    ⟨f, -, hfails⟩ | ⟨_, _, result, after, -, -, -, hchanged, hends⟩
  · rw [hfails]
    exact ⟨.refl _ _, fun _ _ _ => rfl⟩
  · cases result with
    | error e =>
      rw [hends]
      refine ⟨hchanged, fun f hf hwrite => ?_⟩
      exact absurd (Except.error.inj hf).symm (hwrite _ _)
    | ok =>
      rw [hends.1]
      refine ⟨hchanged, fun f hf => ?_⟩
      cases hf

/-- A sheet that cannot be transposed leaves the session and the files as they are. -/
theorem transposed_of_error {f : Failure}
    (hf : ((SheetFile.transpose p x.session.context.config.outputSuffix k :
      StateM Host (Except Failure Outcome)).run x.host).1 = .error f) : x.transposed p k = x := by
  rw [Disk.run_transpose_eq] at hf
  rw [HostedSession.transposed, Host.transposed, Disk.transposed_of_error hf]

/-- A change that cannot be transposed leaves the files as they are, and the session as it was. -/
theorem Tracks.act_append_of_error (hx : x.Tracks) {content : ByteArray} {f : Failure}
    (hl : x.host.disk.lookup p = .ok (l, .file content))
    (hk : x.session.watches.keyOf? l.path = some k)
    (hf : ((SheetFile.transpose l.path x.session.context.config.outputSuffix k :
      StateM Host (Except Failure Outcome)).run (x.host.append p bytes).2).1 = .error f) :
    (x.act (.append p bytes)).2 = x.appended p bytes := by
  by_cases hquiet : x.session.ended = true ∨ bytes.size = 0
  · rw [act_append_of_quiet (hquiet.imp_right fun he => ?_)]
    rw [appended_of_file hl]
    simp [he]
  · obtain ⟨hopen, hne⟩ := not_or.mp hquiet
    rw [hx.act_append (by simpa using hopen) hl hne, hk]
    exact transposed_of_error (x := x.appended p bytes) hf

theorem act_told_of_error {f : Failure} (hl : x.host.disk.canonical? p = some l)
    (hk : x.session.watches.keyOf? l.path = some k)
    (hf : ((SheetFile.transpose p x.session.context.config.outputSuffix k :
      StateM Host (Except Failure Outcome)).run x.host).1 = .error f) :
    (x.act (.told p)).2 = x := by
  show (x.step (.changed p)).2 = x
  cases hopen : x.session.ended with
  | true => rw [step_of_ended hopen]
  | false =>
    rw [step_changed hopen, Host.canonical_eq_path hl, hk]
    exact transposed_of_error hf

/-- What is kept where a sheet cannot be transposed again, or cannot be watched. -/
structure Spared (x : HostedSession) : Prop where
  /-- A sheet that changed by an append and cannot be transposed again costs nothing: the files are
  as the append left them, and everything that was watched is watched. -/
  append : ∀ p bytes l content k f, x.host.disk.lookup p = .ok (l, .file content) →
    x.session.watches.keyOf? l.path = some k →
    ((SheetFile.transpose l.path x.session.context.config.outputSuffix k :
      StateM Host (Except Failure Outcome)).run (x.host.append p bytes).2).1 = .error f →
    (x.act (.append p bytes)).2 = ⟨(x.host.append p bytes).2, x.session⟩
  /-- Nor does any other change of which the session is told. -/
  told : ∀ p l k f, x.host.disk.canonical? p = some l →
    x.session.watches.keyOf? l.path = some k →
    ((SheetFile.transpose p x.session.context.config.outputSuffix k :
      StateM Host (Except Failure Outcome)).run x.host).1 = .error f →
    (x.act (.told p)).2 = x
  /-- A file whose absolute path is too long is not watched, and nothing changes. -/
  long : ∀ text p k l, x.session.ended = false →
    CallsFor x.session.context.config text .watch p k → NamesFile x.host.disk p l →
    4096 ≤ l.path.utf8ByteSize → ∃ e, x.act (.line text) = ([refused "watch" p e], x)

theorem Tracks.spared (hx : x.Tracks) : x.Spared :=
  ⟨fun _ _ _ _ _ _ => hx.act_append_of_error, fun _ _ _ _ => act_told_of_error,
    fun _ _ _ _ hopen hc hl => hx.act_watch_of_long hopen hc hl.1⟩

/-! ## The results -/

end HostedSession

end ChordSheet
