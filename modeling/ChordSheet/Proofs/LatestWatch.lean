import ChordSheet.Proofs.PlainSession

/-!
# The latest line about a sheet counts

Every line that asks to watch a thing which is there, or to watch it no longer, has an effect on
that thing, whichever spelling of its path is used. The latest effect on a thing is all that counts:
it says whether the table holds the thing and with which key, whether the thing is subscribed for,
and so what an append to it makes the session do.

* `HostedSession.watchEffects` : the effects of what was done, in order.
* `HostedSession.Records` : the table and the subscriptions are what a record says.
* `HostedSession.Records.play` : they are what the latest effects say.
* `HostedSession.follows_latest` : a session does what the latest effects say.
-/

set_option autoImplicit false

namespace ChordSheet

/-- The place of the thing to which a path leads, if it can be found at its canonical path. -/
def Disk.found? (d : Disk) (p : Path) : Option Location :=
  (d.canonical? p).filter fun l => (d.lookup l.path).isOk

theorem Disk.Sound.found?_eq_some_iff {d : Disk} (hd : d.Sound) {p : Path} {l : Location} :
    d.found? p = some l ↔ d.canonical? p = some l ∧ ∃ n, d.lookup l.path = .ok (l, n) := by
  rw [found?, Option.filter_eq_some_iff]
  refine and_congr_right fun hp => ?_
  obtain ⟨m, hm⟩ := Option.isSome_iff_exists.mp (canonical?_eq_some_iff.mp hp).2
  cases hl : d.lookup l.path with
  | error e => simp [Except.isOk, Except.toBool]
  | ok found =>
    obtain ⟨k, n⟩ := found
    obtain rfl := hd.lookup_path hm hl
    simp [Except.isOk, Except.toBool]

namespace HostedSession

open Session

variable {x y : HostedSession} {z : List Message × HostedSession} {w : Record} {text : String}
  {p : Path} {k : Key} {l : Location} {bytes : ByteArray}

/-! ## Effects -/

/-- The thing on which an action has an effect, and the key with which it is watched from then on,
if it is. A line that asks to watch has an effect if the thing is there, whether or not it can be
transposed. -/
def watchEffect? (x : HostedSession) : Action → Option (Location × Option Key)
  | .append _ _ => none
  | .told _ => none
  | .line text =>
    if x.session.ended then none
    else
      match Command.registry.dispatch?
        (String.ofList (Text.trim (TypedLine.edited text.toList))) with
      | some (.watch, argument) =>
        match Argument.pathAndKey x.session.context.config "" argument with
        | .ok (p, k) => (x.host.disk.found? p).map fun l => (l, some k)
        | .error _ => none
      | some (.unwatch, p) => (x.host.disk.canonical? p).map fun l => (l, none)
      | _ => none

/-- The effects of some actions, in order. -/
def watchEffects (x : HostedSession) : List Action → List (Location × Option Key)
  | [] => []
  | a :: as => (x.watchEffect? a).toList ++ (x.act a).2.watchEffects as

/-- What the latest effect on each thing says. -/
def latest (effects : List (Location × Option Key)) : Record :=
  fun l => (effects.filter fun e => e.1 = l).getLast?.bind Prod.snd

theorem latest_concat (effects : List (Location × Option Key)) (l : Location) (k? : Option Key) :
    latest (effects ++ [(l, k?)]) = Function.update (latest effects) l k? := by
  funext m
  rw [latest, List.filter_append]
  by_cases hm : m = l
  · subst hm
    rw [Function.update_self]
    simp
  · rw [Function.update_of_ne hm]
    simp [Ne.symm hm, latest]

theorem watchEffect?_of_ended (hx : x.session.ended = true) (a : Action) :
    x.watchEffect? a = none := by
  cases a with
  | append p bytes => rfl
  | told p => rfl
  | line text => rw [watchEffect?, if_pos hx]

theorem watchEffect?_watch (hopen : x.session.ended = false)
    (hc : CallsFor x.session.context.config text .watch p k) :
    x.watchEffect? (.line text) = (x.host.disk.found? p).map fun l => (l, some k) := by
  obtain ⟨argument, form, hcalls, hargument⟩ := hc
  rw [watchEffect?, if_neg (by simp [hopen]), hcalls]
  dsimp only
  rw [Argument.pathAndKey_form hargument]

theorem watchEffect?_unwatch (hopen : x.session.ended = false) (hc : Calls text .unwatch p) :
    x.watchEffect? (.line text) = (x.host.disk.canonical? p).map fun l => (l, none) := by
  rw [watchEffect?, if_neg (by simp [hopen]), hc]

theorem watchEffect?_other (hopen : x.session.ended = false)
    (hwatch : ∀ p k, ¬ CallsFor x.session.context.config text .watch p k)
    (hunwatch : ∀ p, ¬ Calls text .unwatch p) : x.watchEffect? (.line text) = none := by
  rw [watchEffect?, if_neg (by simp [hopen])]
  split
  · rename_i argument hcalls
    split
    · rename_i p k hargument
      exact absurd ⟨argument, "", hcalls, hargument⟩ (hwatch p k)
    · rfl
  · rename_i p hcalls
    exact absurd hcalls (hunwatch p)
  · rfl

/-! ## Records of what is watched -/

/-- What a record says is subscribed for and in the table. -/
def Records (w : Record) (x : HostedSession) : Prop :=
  ∀ l k, w l = some k ↔ l ∈ x.host.subscribed ∧ x.session.watches.keyOf? l.path = some k

theorem records_new (disk : Disk) (context : Context) : Records (latest []) (new disk context) := by
  intro l k
  constructor
  · intro h
    cases h
  · rintro ⟨h, _⟩
    cases h

theorem Records.congr (h : Records w x) (hsubscribed : y.host.subscribed = x.host.subscribed)
    (hwatches : y.session.watches = x.session.watches) : Records w y := by
  intro l k
  rw [h l k, hsubscribed, hwatches]

/-- The record of a thing that is there is the key that the table holds for it. -/
theorem Records.eq_keyOf? (h : Records w x) (hx : x.Tracks) {n : Node}
    (hn : x.host.disk.node? l = some n) : w l = x.session.watches.keyOf? l.path := by
  ext k
  rw [h l k, hx.mem_subscribed_iff hn]
  exact ⟨And.right, fun hk => ⟨⟨k, hk⟩, hk⟩⟩

theorem Records.forget (h : Records w x) (hk : x.session.watches.keyOf? l.path = none) :
    Records (Function.update w l none) x := by
  intro m j
  by_cases hm : m = l
  · subst hm
    simp [hk]
  · rw [Function.update_of_ne hm, h m j]

theorem Records.watched (h : Records w x) (hx : x.Tracks) (hw : Watched x p k l z) :
    Records (Function.update w l (some k)) z.2 := by
  intro m j
  rw [hw.mem_subscribed hx]
  by_cases hm : m = l
  · subst hm
    simp [hw.session, WatchTable.keyOf?_set]
  · rw [Function.update_of_ne hm, h m j, or_iff_right hm]
    refine and_congr_right fun hmem => ?_
    obtain ⟨⟨n, hn⟩, _⟩ := hx.keyed m hmem
    obtain ⟨n', hn', _⟩ := hw.grows.keeps m n hn
    rw [hw.keyOf?_of_ne hx hm hn']

theorem Records.unwatched (h : Records w x) (hx : x.Tracks) (hw : Unwatched x p l z) :
    Records (Function.update w l none) z.2 := by
  intro m j
  rw [hw.subscribed]
  by_cases hm : m = l
  · subst hm
    simp
  · rw [Function.update_of_ne hm, h m j, and_iff_right hm]
    refine and_congr_right fun hmem => ?_
    obtain ⟨⟨n, hn⟩, _⟩ := hx.keyed m hmem
    rw [hw.keyOf?_of_ne hx hm hn]

/-- A change of which a session is told leaves the table and the subscriptions as they are. -/
theorem Records.step_changed (h : Records w x) (p : Path) : Records w (x.step (.changed p)).2 := by
  cases hopen : x.session.ended with
  | true =>
    rw [step_of_ended hopen]
    exact h
  | false =>
    rw [HostedSession.step_changed hopen]
    split
    · exact h
    · exact h.congr rfl rfl

theorem Records.steps_changed (h : Records w x) (ps : List Path) :
    Records w (x.steps (ps.map .changed)).2 := by
  induction ps generalizing x with
  | nil => exact h
  | cons p ps ih => exact ih (h.step_changed p)

theorem Records.append (h : Records w x) (p : Path) (bytes : ByteArray) :
    Records w (x.act (.append p bytes)).2 := by
  have happended : Records w (x.appended p bytes) := by
    refine h.congr ?_ rfl
    rw [appended, Host.append]
    split <;> rfl
  rw [act_append_eq]
  exact happended.steps_changed _

theorem Records.line {effects : List (Location × Option Key)} (h : Records (latest effects) x)
    (hx : x.Tracks) (hopen : x.session.ended = false) (text : String) :
    Records (latest (effects ++ (x.watchEffect? (.line text)).toList)) (x.step (.line text)).2 := by
  by_cases hwatch : ∃ p k, CallsFor x.session.context.config text .watch p k
  · obtain ⟨p, k, hc⟩ := hwatch
    rw [watchEffect?_watch hopen hc]
    rcases hx.step_watch hopen hc with ⟨⟨e, hsame⟩, hnone⟩ | ⟨l, hw⟩
    · have hfound : x.host.disk.found? p = none := by
        rw [Option.eq_none_iff_forall_ne_some]
        intro l hl
        obtain ⟨hcanonical, n, hlookup⟩ := hx.sound.found?_eq_some_iff.mp hl
        exact hnone l n hcanonical hlookup
      rw [hsame, hfound]
      simpa using h
    · have hfound := hx.sound.found?_eq_some_iff.mpr ⟨hw.canonical?, hw.lookup⟩
      rw [hfound, Option.map_some, Option.toList_some, latest_concat]
      exact h.watched hx hw
  · by_cases hunwatch : ∃ p, Calls text .unwatch p
    · obtain ⟨p, hc⟩ := hunwatch
      rw [watchEffect?_unwatch hopen hc]
      rcases hx.step_unwatch hopen hc with ⟨hsame, hnone⟩ | ⟨l, hw⟩
      · rw [hsame]
        cases hp : x.host.disk.canonical? p with
        | none => simpa using h
        | some l =>
          rw [Option.map_some, Option.toList_some, latest_concat]
          exact h.forget (hnone l hp)
      · rw [hw.canonical?, Option.map_some, Option.toList_some, latest_concat]
        exact h.unwatched hx hw
    · simp only [not_exists] at hwatch hunwatch
      rw [watchEffect?_other hopen hwatch hunwatch]
      obtain ⟨⟨d, subscribed⟩, ⟨context, watches, ended⟩⟩ := x
      cases hopen
      obtain ⟨e, context', ended, _, hstep⟩ := step_line_eq hwatch hunwatch d
      rw [hstep subscribed watches, Option.toList_none, List.append_nil]
      exact h.congr rfl rfl

/-- **The latest effects say what is watched**, one action more. -/
theorem Records.act {effects : List (Location × Option Key)} (h : Records (latest effects) x)
    (hx : x.Tracks) (a : Action) :
    Records (latest (effects ++ (x.watchEffect? a).toList)) (x.act a).2 := by
  cases hopen : x.session.ended with
  | true =>
    rw [watchEffect?_of_ended hopen, Option.toList_none, List.append_nil]
    cases a with
    | line text =>
      have hact : x.act (.line text) = ([], x) := step_of_ended hopen (.line text)
      rw [hact]
      exact h
    | append p bytes => exact h.append p bytes
    | told p => exact h.step_changed p
  | false =>
    cases a with
    | line text => exact h.line hx hopen text
    | append p bytes =>
      rw [watchEffect?, Option.toList_none, List.append_nil]
      exact h.append p bytes
    | told p =>
      rw [watchEffect?, Option.toList_none, List.append_nil]
      exact h.step_changed p

/-- **The latest effects say what is watched**, whatever was done. -/
theorem Records.play {effects : List (Location × Option Key)} (h : Records (latest effects) x)
    (hx : x.Tracks) (as : List Action) :
    Records (latest (effects ++ x.watchEffects as)) (x.play as).2 := by
  induction as generalizing x effects with
  | nil => simpa [watchEffects, HostedSession.play] using h
  | cons a as ih =>
    rw [watchEffects, ← List.append_assoc, play_cons]
    exact ih (h.act hx a) (hx.act a)

/-! ## What a session does -/

/-- A session does what a record of the latest effects says. -/
structure Follows (w : Record) (x : HostedSession) : Prop where
  /-- An append to a watched file makes the session transpose it once, to the key of the record; an
  append to another file is no more than that. -/
  append : ∀ p bytes l content, x.host.disk.lookup p = .ok (l, .file content) → bytes.size ≠ 0 →
    x.act (.append p bytes) =
      match w l with
      | none => ([], x.appended p bytes)
      | some k =>
        let run := (x.session.transpose l.path k : StateM Host (List Message)).run
          (x.appended p bytes).host
        (fileChanged l.path :: run.1, ⟨run.2, x.session⟩)
  /-- A thing that is watched again gets the new key; the answer has the key of the record, and
  nothing is subscribed for again. -/
  again : ∀ text p k l previous, CallsFor x.session.context.config text .watch p k →
    x.host.disk.canonical? p = some l → w l = some previous →
      let run := (x.session.transpose p k : StateM Host (List Message)).run x.host
      x.act (.line text) = (rewatching p k previous :: run.1,
        ⟨run.2, { x.session with watches := x.session.watches.set l.path k }⟩) ∧
      run.2.subscribed = x.host.subscribed
  /-- A thing that is watched for the first time is subscribed for, even if it cannot be
  transposed. -/
  first : ∀ text p k l, CallsFor x.session.context.config text .watch p k →
    x.host.disk.found? p = some l → w l = none →
      let run := (x.session.transpose p k : StateM Host (List Message)).run x.host
      x.act (.line text) = (watching p k :: run.1,
        ⟨{ run.2 with subscribed := l :: x.host.subscribed },
          { x.session with watches := x.session.watches.set l.path k }⟩)
  /-- What is not found is not watched, and nothing changes. -/
  missing : ∀ text p k, CallsFor x.session.context.config text .watch p k →
    x.host.disk.found? p = none → ∃ e, x.act (.line text) = ([refused "watch" p e], x)
  /-- A session says that something is watched no longer if and only if it was watched. -/
  unwatch : ∀ text p, Calls text .unwatch p →
    ((x.act (.line text)).1 = [unwatched p] ↔
      ∃ l k, x.host.disk.canonical? p = some l ∧ w l = some k)
  /-- To unwatch what is not watched changes nothing. -/
  idle : ∀ text p, Calls text .unwatch p →
    (∀ l, x.host.disk.canonical? p = some l → w l = none) → (x.act (.line text)).2 = x

/-- Nobody is told that something is watched no longer that was not watched. -/
theorem notUnwatched_ne (p : Path) : notUnwatched p ≠ [unwatched p] := by
  unfold notUnwatched
  split <;> simp [messages, notWatched, unwatched, complaint, Message.boldColored, Message.colored]

theorem Watched.eq_of_registered {output : List Message} {subscribed : List Location}
    (hw : Watched x p k l z) (h : z.1 = output ∧ z.2.host.subscribed = subscribed) :
    z = (output,
      ⟨{ x.host.transposed p x.session.context.config.outputSuffix k with
          subscribed := subscribed },
        { x.session with watches := x.session.watches.set l.path k }⟩) := by
  obtain ⟨said, ⟨disk, noted⟩, session⟩ := z
  obtain rfl : disk = _ := hw.disk
  obtain rfl : session = _ := hw.session
  obtain rfl : said = output := h.1
  obtain rfl : noted = subscribed := h.2
  rfl

/-- A thing that is found can be watched. -/
theorem Tracks.respond_watch_of_found (hx : x.Tracks) (hp : x.host.disk.found? p = some l)
    (k : Key) : Watched x p k l (x.respond (.watch p k)) := by
  obtain ⟨hcanonical, n, hl⟩ := hx.sound.found?_eq_some_iff.mp hp
  rcases hx.respond_watch p k with ⟨_, hnone⟩ | ⟨l', hw⟩
  · exact absurd hl (hnone l n hcanonical)
  · obtain rfl := Option.some.inj (hw.canonical?.symm.trans hcanonical)
    exact hw

/-- A line that asks to watch a thing that is found watches it. -/
theorem Tracks.step_watch_of_found (hx : x.Tracks) (hopen : x.session.ended = false)
    (hc : CallsFor x.session.context.config text .watch p k) (hp : x.host.disk.found? p = some l) :
    Watched x p k l (x.act (.line text)) := by
  have hact : x.act (.line text) = x.respond (.watch p k) := step_watch_line hopen hc
  rw [hact]
  exact hx.respond_watch_of_found hp k

/-- What is recorded is found. -/
theorem Records.found? (h : Records w x) (hx : x.Tracks) (hp : x.host.disk.canonical? p = some l)
    (hk : w l = some k) : x.host.disk.found? p = some l := by
  obtain ⟨hmem, hkey⟩ := (h l k).mp hk
  obtain ⟨m, n, hpath, hl, _⟩ := hx.found _ k hkey
  obtain ⟨⟨n', hn'⟩, _⟩ := hx.keyed l hmem
  obtain rfl := hx.sound.lookup_path hn' hl
  exact hx.sound.found?_eq_some_iff.mpr ⟨hp, n, hl⟩

theorem Records.follows (h : Records w x) (hx : x.Tracks) (hopen : x.session.ended = false) :
    Follows w x where
  append p bytes l content hl hne := by
    rw [hx.act_append hopen hl hne, h.eq_keyOf? hx (Disk.lookup_eq_ok_iff.mp hl).2]
    cases x.session.watches.keyOf? l.path with
    | none => rfl
    | some k =>
      dsimp only
      rw [run_transpose]
      rfl
  again text p k l previous hc hp hk := by
    have hw := hx.step_watch_of_found hopen hc (h.found? hx hp hk)
    have hregistered := hw.registered
    rw [((h l previous).mp hk).2] at hregistered
    rw [run_transpose]
    exact ⟨hw.eq_of_registered hregistered, rfl⟩
  first text p k l hc hp hk := by
    have hw := hx.step_watch_of_found hopen hc hp
    obtain ⟨n, hl⟩ := hw.lookup
    have hregistered := hw.registered
    rw [← h.eq_keyOf? hx (Disk.lookup_eq_ok_iff.mp hl).2, hk] at hregistered
    rw [run_transpose]
    exact hw.eq_of_registered hregistered
  missing text p k hc hp := by
    rcases hx.step_watch hopen hc with ⟨hrefused, _⟩ | ⟨l, hw⟩
    · exact hrefused
    · rw [hx.sound.found?_eq_some_iff.mpr ⟨hw.canonical?, hw.lookup⟩] at hp
      cases hp
  unwatch text p hc := by
    rcases hx.step_unwatch hopen hc with ⟨hsame, hnone⟩ | ⟨l, hw⟩
    · have hact : x.act (.line text) = (notUnwatched p, x) := hsame
      rw [hact]
      constructor
      · intro houtput
        exact absurd houtput (notUnwatched_ne p)
      · rintro ⟨l, k, hp, hk⟩
        have hkey := ((h l k).mp hk).2
        rw [hnone l hp] at hkey
        cases hkey
    · obtain ⟨k, hk⟩ := hw.keyed
      obtain ⟨n, hn⟩ := Option.isSome_iff_exists.mp (Disk.canonical?_eq_some_iff.mp hw.canonical?).2
      exact iff_of_true hw.output ⟨l, k, hw.canonical?, (h.eq_keyOf? hx hn).trans hk⟩
  idle text p hc hnone := by
    rcases hx.step_unwatch hopen hc with ⟨hsame, _⟩ | ⟨l, hw⟩
    · exact congrArg Prod.snd hsame
    · obtain ⟨k, hk⟩ := hw.keyed
      obtain ⟨n, hn⟩ := Option.isSome_iff_exists.mp (Disk.canonical?_eq_some_iff.mp hw.canonical?).2
      rw [← h.eq_keyOf? hx hn, hnone l hw.canonical?] at hk
      cases hk

/-- **The latest line about a sheet counts.** Whatever was done before, a session that is open does
with every sheet what the latest line says that had an effect on it. -/
theorem follows_latest {disk : Disk} (hd : disk.Sound) (context : Context) (as : List Action)
    (hopen : ((new disk context).play as).2.session.ended = false) :
    Follows (latest ((new disk context).watchEffects as)) ((new disk context).play as).2 :=
  ((records_new disk context).play (tracks_new hd context) as).follows
    ((tracks_new hd context).play as) hopen

theorem follows_latest_two_keys :
    let disk : Disk := ⟨[(["song.txt"], .file "key: G\nG/D    Em\n".toUTF8)], []⟩
    let as : List Action := [.line "watch song.txt C", .line "default A",
      .line "watch ./song.txt D", .line "watch missing.txt"]
    let x := ((new disk ⟨.standard, "config"⟩).play as).2
    latest ((new disk ⟨.standard, "config"⟩).watchEffects as) ["song.txt"] = some .D ∧
      (x.act (.append "song.txt" "C\n".toUTF8)).1 =
        fileChanged "/song.txt" :: ((x.session.transpose "/song.txt" .D :
          StateM Host (List Message)).run (x.appended "song.txt" "C\n".toUTF8).host).1 := by
  intro disk as x
  have hd : disk.Sound := Disk.sound_single (by constructor <;> decide) _ _
  have hlatest : latest ((new disk ⟨.standard, "config"⟩).watchEffects as) ["song.txt"] =
      some .D := by decide +kernel
  have hlookup : x.host.disk.lookup "song.txt" =
      .ok (["song.txt"], .file "key: G\nG/D    Em\n".toUTF8) :=
    Disk.lookup_of_read (by decide +kernel) (by decide +kernel)
  have happend := (follows_latest hd ⟨.standard, "config"⟩ as (by decide +kernel)).append
    "song.txt" "C\n".toUTF8 _ _ hlookup (by decide +kernel)
  rw [hlatest] at happend
  exact ⟨hlatest, congrArg Prod.fst happend⟩

end HostedSession

end ChordSheet
