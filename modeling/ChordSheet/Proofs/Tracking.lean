import ChordSheet.Proofs.Watching

/-!
# Tables and subscriptions

A session *tracks* its sheets if its disk is sound, its table holds canonical paths of things that
are subscribed for, and everything subscribed for is in the table. Whatever is typed or appended,
a session goes on tracking its sheets. So the host tells the session of exactly the appends to
sheets that its table holds.

* `HostedSession.Tracks.step_watch`, `HostedSession.Tracks.step_unwatch` : the two ways in which a
  line that is about watching goes.
* `HostedSession.Tracks.step`, `HostedSession.Tracks.play` : a session goes on tracking its sheets.
* `HostedSession.Tracks.act_append` : what an append makes a session do.
-/

set_option autoImplicit false

namespace ChordSheet

namespace HostedSession

open Session

variable {x y : HostedSession} {text : String} {p : Path} {k : Key} {l : Location}
  {bytes : ByteArray}

/-- The table of a session holds what is subscribed for, and nothing else. -/
structure Tracks (x : HostedSession) : Prop where
  sound : x.host.disk.Sound
  found : ∀ p k, x.session.watches.keyOf? p = some k →
    ∃ l n, p = Location.path l ∧ x.host.disk.lookup p = .ok (l, n) ∧ l ∈ x.host.subscribed
  keyed : ∀ l ∈ x.host.subscribed,
    (∃ n, x.host.disk.node? l = some n) ∧ ∃ k, x.session.watches.keyOf? l.path = some k

/-- A session on a disk, before anything was done. -/
def new (disk : Disk) (context : Context) : HostedSession := ⟨⟨disk, []⟩, Session.new context⟩

theorem tracks_new {disk : Disk} (hd : disk.Sound) (context : Context) :
    (new disk context).Tracks := by
  refine ⟨hd, ?_, ?_⟩
  · intro p k hk
    cases hk
  · intro l hl
    cases hl

/-- Things go on being tracked while the disk grows. -/
theorem Tracks.grows (hx : x.Tracks) (hdisk : x.host.disk.Grows y.host.disk)
    (hsubscribed : y.host.subscribed = x.host.subscribed)
    (hwatches : y.session.watches = x.session.watches) : y.Tracks := by
  refine ⟨hdisk.sound hx.sound, ?_, ?_⟩
  · intro p k hk
    rw [hwatches] at hk
    obtain ⟨l, n, hp, hl, hmem⟩ := hx.found p k hk
    obtain ⟨m, hm, _⟩ := hdisk.lookup hl
    exact ⟨l, m, hp, hm, hsubscribed ▸ hmem⟩
  · intro l hl
    rw [hsubscribed] at hl
    obtain ⟨⟨n, hn⟩, hk⟩ := hx.keyed l hl
    obtain ⟨m, hm, _⟩ := hdisk.keeps l n hn
    exact ⟨⟨m, hm⟩, hwatches ▸ hk⟩

/-- What a table holds for a path is held for what the path leads to. -/
theorem Tracks.canonical? (hx : x.Tracks)
    (hk : x.session.watches.keyOf? (x.host.canonical p) = some k) :
    ∃ l n, x.host.disk.canonical? p = some l ∧ x.host.canonical p = l.path ∧
      x.host.disk.lookup l.path = .ok (l, n) ∧ l ∈ x.host.subscribed := by
  obtain ⟨l, n, hp, hl, hmem⟩ := hx.found _ k hk
  obtain ⟨hcanonical, _⟩ := Host.canonical_eq_of_lookup hx.sound hl
  exact ⟨l, n, hcanonical, hp, hp ▸ hl, hmem⟩

/-- What is subscribed for is what the table holds. -/
theorem Tracks.mem_subscribed_iff (hx : x.Tracks) {n : Node} (hn : x.host.disk.node? l = some n) :
    l ∈ x.host.subscribed ↔ ∃ k, x.session.watches.keyOf? l.path = some k := by
  constructor
  · exact fun hmem => (hx.keyed l hmem).2
  · rintro ⟨k, hk⟩
    obtain ⟨m, n', hpath, hl, hmem⟩ := hx.found _ k hk
    rwa [hx.sound.lookup_path hn hl] at hmem

/-- What is watched: the thing at a place, together with what was watched. It is subscribed for
unless it was watched before. -/
structure Watched (x : HostedSession) (p : Path) (k : Key) (l : Location)
    (y : List Message × HostedSession) : Prop where
  canonical? : x.host.disk.canonical? p = some l
  lookup : ∃ n, x.host.disk.lookup l.path = .ok (l, n)
  disk : y.2.host.disk = x.host.disk.transposed p x.session.context.config.outputSuffix k
  session : y.2.session = { x.session with watches := x.session.watches.set l.path k }
  registered :
    match x.session.watches.keyOf? l.path with
    | some previous => y.1 = rewatching p k previous :: x.session.told x.host p k ∧
        y.2.host.subscribed = x.host.subscribed
    | none => y.1 = watching p k :: x.session.told x.host p k ∧
        y.2.host.subscribed = l :: x.host.subscribed

/-- To watch is refused if the thing is not found at a canonical path, and else the thing is
watched. -/
theorem Tracks.respond_watch (hx : x.Tracks) (p : Path) (k : Key) :
    ((∃ e, x.respond (.watch p k) = ([refused "watch" p e], x)) ∧
      ∀ l n, x.host.disk.canonical? p = some l → x.host.disk.lookup l.path ≠ .ok (l, n)) ∨
    ∃ l, Watched x p k l (x.respond (.watch p k)) := by
  cases hk : x.session.watches.keyOf? (x.host.canonical p) with
  | some previous =>
    obtain ⟨l, n, hcanonical, hpath, hl, hmem⟩ := hx.canonical? hk
    rw [respond_of_run (r := .watch p k) (run_watch_of_some hk), hpath]
    refine .inr ⟨l, hcanonical, ⟨n, hl⟩, rfl, rfl, ?_⟩
    rw [← hpath, hk]
    exact ⟨rfl, rfl⟩
  | none =>
    cases hl : x.host.disk.lookup (x.host.canonical p) with
    | error e =>
      rw [respond_of_run (r := .watch p k) (run_watch_of_error hk hl)]
      refine .inl ⟨⟨_, rfl⟩, ?_⟩
      intro l n hcanonical
      rw [← Host.canonical_eq_path hcanonical, hl]
      simp
    | ok found =>
      obtain ⟨l, n⟩ := found
      obtain ⟨hcanonical, hpath⟩ := Host.canonical_eq_of_lookup hx.sound hl
      rw [respond_of_run (r := .watch p k) (run_watch_of_lookup hk hl), hpath]
      refine .inr ⟨l, hcanonical, ⟨n, hpath ▸ hl⟩, rfl, rfl, ?_⟩
      rw [← hpath, hk]
      exact ⟨rfl, rfl⟩

/-- **A line that asks to watch** is refused if the thing is not found at a canonical path, and
else it watches the thing. -/
theorem Tracks.step_watch (hx : x.Tracks) (hopen : x.session.ended = false)
    (hc : CallsFor x.session.context.config text .watch p k) :
    ((∃ e, x.step (.line text) = ([refused "watch" p e], x)) ∧
      ∀ l n, x.host.disk.canonical? p = some l → x.host.disk.lookup l.path ≠ .ok (l, n)) ∨
    ∃ l, Watched x p k l (x.step (.line text)) := by
  rw [step_watch_line hopen hc]
  exact hx.respond_watch p k

/-- A session that watches the thing at a place no longer. -/
def forgotten (x : HostedSession) (l : Location) : HostedSession where
  host := { x.host with subscribed := x.host.subscribed.filter (· ≠ l) }
  session := { x.session with watches := x.session.watches.erase l.path }

/-- What a path leads to is watched no longer, if it was. -/
theorem Tracks.respond_unwatch (hx : x.Tracks) (p : Path) :
    (x.respond (.unwatch p) = ([notWatched p], x) ∧
      ∀ l, x.host.disk.canonical? p = some l → x.session.watches.keyOf? l.path = none) ∨
    ∃ l k, x.host.disk.canonical? p = some l ∧ x.session.watches.keyOf? l.path = some k ∧
      x.respond (.unwatch p) = ([unwatched p], x.forgotten l) := by
  cases hk : x.session.watches.keyOf? (x.host.canonical p) with
  | none =>
    refine .inl ⟨respond_of_run (r := .unwatch p) (run_unwatch_of_none hk), fun l hl => ?_⟩
    rw [← Host.canonical_eq_path hl, hk]
  | some k =>
    obtain ⟨l, n, hcanonical, hpath, hl, hmem⟩ := hx.canonical? hk
    have hunsubscribe : x.host.unsubscribe (x.host.canonical p) =
        (.ok (), { x.host with subscribed := x.host.subscribed.filter (· ≠ l) }) := by
      rw [hpath, Host.unsubscribe, Disk.canonical?_of_lookup hl]
      simp only [hmem, if_true]
    rw [respond_of_run (r := .unwatch p) (run_unwatch_of_some hk hunsubscribe), hpath]
    exact .inr ⟨l, k, hcanonical, hpath ▸ hk, rfl⟩

/-- What is no longer watched: the thing at a place. -/
structure Unwatched (x : HostedSession) (p : Path) (l : Location)
    (y : List Message × HostedSession) : Prop where
  canonical? : x.host.disk.canonical? p = some l
  keyed : ∃ k, x.session.watches.keyOf? l.path = some k
  output : y.1 = [unwatched p]
  disk : y.2.host.disk = x.host.disk
  subscribed : ∀ m, m ∈ y.2.host.subscribed ↔ m ≠ l ∧ m ∈ x.host.subscribed
  session : y.2.session = { x.session with watches := x.session.watches.erase l.path }

/-- What a session says that is asked to watch something no longer that it does not watch. -/
def notUnwatched (p : Path) : List Message :=
  if p = "" then messages (.error (.usage "unwatch <file>")) else [notWatched p]

/-- **A line that asks to unwatch** takes off the thing that the path leads to, if it was
watched. -/
theorem Tracks.step_unwatch (hx : x.Tracks) (hopen : x.session.ended = false)
    (hc : Calls text .unwatch p) :
    (x.step (.line text) = (notUnwatched p, x) ∧ ∀ l, x.host.disk.canonical? p = some l →
      x.session.watches.keyOf? l.path = none) ∨
    ∃ l, Unwatched x p l (x.step (.line text)) := by
  by_cases hne : p = ""
  · subst hne
    refine .inl ⟨step_unwatch_nothing hopen hc, fun l hl => ?_⟩
    cases hl
  rw [step_unwatch_line hopen hc hne, notUnwatched, if_neg hne]
  rcases hx.respond_unwatch p with hsame | ⟨l, k, hcanonical, hk, hrespond⟩
  · exact .inl hsame
  · rw [hrespond]
    refine .inr ⟨l, hcanonical, ⟨k, hk⟩, rfl, rfl, fun m => ?_, rfl⟩
    simp [forgotten, and_comm]

section

variable {z : List Message × HostedSession}

theorem Watched.grows (hw : Watched x p k l z) : x.host.disk.Grows z.2.host.disk :=
  hw.disk ▸ Disk.grows_transposed _ _ _ _

theorem Watched.mem_subscribed (hw : Watched x p k l z) (hx : x.Tracks) (m : Location) :
    m ∈ z.2.host.subscribed ↔ m = l ∨ m ∈ x.host.subscribed := by
  obtain ⟨n, hl⟩ := hw.lookup
  have hmem := hx.mem_subscribed_iff (Disk.lookup_eq_ok_iff.mp hl).2
  have hregistered := hw.registered
  split at hregistered
  · rename_i previous hk
    rw [hregistered.2]
    exact ⟨.inr, fun h => h.elim (fun he => he ▸ hmem.mpr ⟨previous, hk⟩) id⟩
  · rw [hregistered.2]
    exact List.mem_cons

theorem Watched.tracks (hw : Watched x p k l z) (hx : x.Tracks) : z.2.Tracks := by
  obtain ⟨n, hl⟩ := hw.lookup
  obtain ⟨m, hm, _⟩ := hw.grows.lookup hl
  refine ⟨hw.grows.sound hx.sound, ?_, ?_⟩
  · intro q j hq
    rw [hw.session, WatchTable.keyOf?_set] at hq
    split at hq
    · exact ⟨l, m, ‹_›, ‹q = _› ▸ hm, (hw.mem_subscribed hx l).mpr (.inl rfl)⟩
    · obtain ⟨l', n', hpath, hl', hmem⟩ := hx.found q j hq
      obtain ⟨m', hm', _⟩ := hw.grows.lookup hl'
      exact ⟨l', m', hpath, hm', (hw.mem_subscribed hx l').mpr (.inr hmem)⟩
  · intro l' hl'
    rcases (hw.mem_subscribed hx l').mp hl' with rfl | hmem
    · refine ⟨⟨m, (Disk.lookup_eq_ok_iff.mp hm).2⟩, k, ?_⟩
      rw [hw.session, WatchTable.keyOf?_set, if_pos rfl]
    · obtain ⟨⟨n', hn'⟩, j, hj⟩ := hx.keyed l' hmem
      obtain ⟨m', hm', _⟩ := hw.grows.keeps l' n' hn'
      refine ⟨⟨m', hm'⟩, ?_⟩
      rw [hw.session, WatchTable.keyOf?_set]
      split
      · exact ⟨k, rfl⟩
      · exact ⟨j, hj⟩

/-- To watch one thing changes the key of no other. -/
theorem Watched.keyOf?_of_ne (hw : Watched x p k l z) (hx : x.Tracks) {m : Location} (hm : m ≠ l)
    {n : Node} (hn : z.2.host.disk.node? m = some n) :
    z.2.session.watches.keyOf? m.path = x.session.watches.keyOf? m.path := by
  obtain ⟨n', hl⟩ := hw.lookup
  obtain ⟨m', hm', _⟩ := hw.grows.keeps l n' (Disk.lookup_eq_ok_iff.mp hl).2
  rw [hw.session, WatchTable.keyOf?_set,
    if_neg fun he => hm ((hw.grows.sound hx.sound).path_inj hn hm' he)]

/-- To watch one thing no longer changes the key of no other. -/
theorem Unwatched.keyOf?_of_ne (hw : Unwatched x p l z) (hx : x.Tracks) {m : Location}
    (hm : m ≠ l) {n : Node} (hn : x.host.disk.node? m = some n) :
    z.2.session.watches.keyOf? m.path = x.session.watches.keyOf? m.path := by
  obtain ⟨n', hn'⟩ := Option.isSome_iff_exists.mp (Disk.canonical?_eq_some_iff.mp hw.canonical?).2
  rw [hw.session, WatchTable.keyOf?_erase, if_neg fun he => hm (hx.sound.path_inj hn hn' he)]

theorem Unwatched.tracks (hw : Unwatched x p l z) (hx : x.Tracks) : z.2.Tracks := by
  refine ⟨hw.disk ▸ hx.sound, ?_, ?_⟩
  · intro q j hq
    rw [hw.session, WatchTable.keyOf?_erase] at hq
    split at hq
    · cases hq
    · rename_i hne
      obtain ⟨l', n', rfl, hl', hmem⟩ := hx.found q j hq
      refine ⟨l', n', rfl, hw.disk ▸ hl', (hw.subscribed l').mpr ⟨?_, hmem⟩⟩
      rintro rfl
      exact hne rfl
  · intro l' hl'
    obtain ⟨hne, hmem⟩ := (hw.subscribed l').mp hl'
    obtain ⟨⟨n', hn'⟩, j, hj⟩ := hx.keyed l' hmem
    exact ⟨⟨n', hw.disk ▸ hn'⟩, j, (hw.keyOf?_of_ne hx hne hn').trans hj⟩

end

/-- Whatever is typed, a session goes on tracking its sheets. -/
theorem Tracks.step_line (hx : x.Tracks) (text : String) : (x.step (.line text)).2.Tracks := by
  cases hopen : x.session.ended with
  | true =>
    rw [step_of_ended hopen]
    exact hx
  | false =>
    by_cases hwatch : ∃ p k, CallsFor x.session.context.config text .watch p k
    · obtain ⟨p, k, hc⟩ := hwatch
      rcases hx.step_watch hopen hc with ⟨⟨e, hsame⟩, _⟩ | ⟨l, hw⟩
      · rw [hsame]
        exact hx
      · exact hw.tracks hx
    · by_cases hunwatch : ∃ p, Calls text .unwatch p
      · obtain ⟨p, hc⟩ := hunwatch
        rcases hx.step_unwatch hopen hc with ⟨hsame, _⟩ | ⟨l, hw⟩
        · rw [hsame]
          exact hx
        · exact hw.tracks hx
      · simp only [not_exists] at hwatch hunwatch
        obtain ⟨⟨d, subscribed⟩, ⟨context, watches, ended⟩⟩ := x
        cases hopen
        obtain ⟨e, context', ended, hgrows, hstep⟩ := step_line_eq hwatch hunwatch d
        rw [hstep subscribed watches]
        exact hx.grows hgrows rfl rfl

theorem Tracks.transposed (hx : x.Tracks) (p : Path) (k : Key) : (x.transposed p k).Tracks :=
  hx.grows (Disk.grows_transposed _ _ _ _) rfl rfl

/-! ## Appends -/

/-- The session after bytes were appended to a file, before it is told. -/
def appended (x : HostedSession) (p : Path) (bytes : ByteArray) : HostedSession :=
  { x with host := (x.host.append p bytes).2 }

theorem appended_of_file {content : ByteArray}
    (hl : x.host.disk.lookup p = .ok (l, .file content)) (bytes : ByteArray) :
    x.host.append p bytes =
      (if l ∈ x.host.subscribed && bytes.size != 0 then [l.path] else [],
        { x.host with disk := x.host.disk.set l (.file (content ++ bytes)) }) := by
  rw [Host.append, hl]

theorem appended_of_not_file (hl : ∀ l content, x.host.disk.lookup p ≠ .ok (l, .file content))
    (bytes : ByteArray) : x.host.append p bytes = ([], x.host) := by
  rw [Host.append]
  split
  · rename_i l content h
    exact absurd h (hl l content)
  · rfl

/-- An append lets the disk grow. -/
theorem grows_appended (hd : x.host.disk.Sound) (p : Path) (bytes : ByteArray) :
    x.host.disk.Grows (x.appended p bytes).host.disk := by
  by_cases hl : ∃ l content, x.host.disk.lookup p = .ok (l, .file content)
  · obtain ⟨l, content, hl⟩ := hl
    rw [appended, appended_of_file hl]
    obtain ⟨_, here, name, _, _, hname, rfl⟩ := hd.names_of_file hl
    have hnode := (Disk.lookup_eq_ok_iff.mp hl).2
    refine Disk.grows_set (hd here name _ hnode).1 hname ?_
    intro m hm
    rw [hnode] at hm
    cases hm
    rfl
  · simp only [not_exists] at hl
    rw [appended, appended_of_not_file hl]
    exact Disk.Grows.refl _

theorem Tracks.appended (hx : x.Tracks) (p : Path) (bytes : ByteArray) :
    (x.appended p bytes).Tracks := by
  refine hx.grows (grows_appended hx.sound p bytes) ?_ rfl
  rw [HostedSession.appended, Host.append]
  split <;> rfl

theorem act_append_eq (x : HostedSession) (p : Path) (bytes : ByteArray) :
    x.act (.append p bytes) =
      (x.appended p bytes).steps ((x.host.append p bytes).1.map .changed) := rfl

/-- An append of which a session is not told, or which it does not answer. -/
theorem act_append_of_quiet (hquiet : x.session.ended = true ∨ (x.host.append p bytes).1 = []) :
    x.act (.append p bytes) = ([], x.appended p bytes) := by
  have hended : ∀ (y : HostedSession) (es : List Event), y.session.ended = true →
      y.steps es = ([], y) := by
    intro y es hy
    induction es with
    | nil => rfl
    | cons e es ih => rw [steps_cons, step_of_ended hy, ih, List.nil_append]
  rw [act_append_eq]
  rcases hquiet with hx | htold
  · exact hended (x.appended p bytes) _ hx
  · rw [htold]
    rfl

/-- **What an append makes a session do**: it transposes the sheet if its table holds it. -/
theorem Tracks.act_append (hx : x.Tracks) (hopen : x.session.ended = false) {content : ByteArray}
    (hl : x.host.disk.lookup p = .ok (l, .file content)) (hne : bytes.size ≠ 0) :
    x.act (.append p bytes) =
      match x.session.watches.keyOf? l.path with
      | none => ([], x.appended p bytes)
      | some k => (fileChanged l.path :: x.session.told (x.appended p bytes).host l.path k,
          (x.appended p bytes).transposed l.path k) := by
  have happend := appended_of_file hl bytes
  have hgrows := grows_appended hx.sound p bytes
  have hnode := (Disk.lookup_eq_ok_iff.mp hl).2
  obtain ⟨m, hm, _⟩ := hgrows.keeps l _ hnode
  have hsound := hgrows.sound hx.sound
  have hcanonical : (x.appended p bytes).host.canonical l.path = l.path :=
    Host.canonical_eq_path (Disk.canonical?_eq_some_iff.mpr ⟨hsound.follow_path hm, by simp [hm]⟩)
  -- the session is told if and only if the place is subscribed for, that is, in the table
  cases hk : x.session.watches.keyOf? l.path with
  | some k =>
    have hmem : l ∈ x.host.subscribed := (hx.mem_subscribed_iff hnode).mpr ⟨k, hk⟩
    have htold : (x.host.append p bytes).1 = [l.path] := by
      rw [happend]
      simp [hmem, hne]
    have hkey : (x.appended p bytes).session.watches.keyOf? l.path = some k := hk
    rw [act_append_eq, htold, List.map_singleton, steps_cons,
      step_changed (x := x.appended p bytes) hopen, hcanonical, hkey]
    simp [steps, HostedSession.appended]
  | none =>
    have hmem : l ∉ x.host.subscribed := by
      intro hmem
      obtain ⟨k, hk'⟩ := (hx.mem_subscribed_iff hnode).mp hmem
      rw [hk] at hk'
      cases hk'
    refine act_append_of_quiet (.inr ?_)
    rw [happend]
    simp [hmem]

/-! ## Whatever happens -/

theorem Tracks.step_changed (hx : x.Tracks) (p : Path) : (x.step (.changed p)).2.Tracks := by
  cases hopen : x.session.ended with
  | true =>
    rw [step_of_ended hopen]
    exact hx
  | false =>
    rw [HostedSession.step_changed hopen]
    split
    · exact hx
    · exact hx.transposed _ _

/-- **Whatever happens, a session goes on tracking its sheets.** -/
theorem Tracks.step (hx : x.Tracks) (e : Event) : (x.step e).2.Tracks := by
  cases e with
  | line text => exact hx.step_line text
  | changed p => exact hx.step_changed p
  | endOfInput =>
    cases hopen : x.session.ended with
    | true =>
      rw [step_of_ended hopen]
      exact hx
    | false =>
      have hstep : (x.step .endOfInput).2 = ⟨x.host, { x.session with ended := true }⟩ := by
        rw [HostedSession.step, Session.step, if_neg (by simp [hopen])]
        rfl
      rw [hstep]
      exact hx.grows (Disk.Grows.refl _) rfl rfl

theorem Tracks.steps (hx : x.Tracks) (es : List Event) : (x.steps es).2.Tracks := by
  induction es generalizing x with
  | nil => exact hx
  | cons e es ih => exact ih (hx.step e)

theorem Tracks.act (hx : x.Tracks) (a : Action) : (x.act a).2.Tracks := by
  cases a with
  | line text => exact hx.step (.line text)
  | append p bytes => exact (hx.appended p bytes).steps _
  | told p => exact hx.step (.changed p)

theorem Tracks.play (hx : x.Tracks) (as : List Action) : (x.play as).2.Tracks := by
  induction as generalizing x with
  | nil => exact hx
  | cons a as ih => exact ih (hx.act a)

end HostedSession

end ChordSheet
