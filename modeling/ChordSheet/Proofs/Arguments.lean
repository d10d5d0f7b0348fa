import ChordSheet.Proofs.KeySpelling
import ChordSheet.Proofs.LatestWatch
import ChordSheet.Proofs.SheetReport

/-!
# What arguments are read as

The argument of a line that transposes or watches a file is a path, and a key if its last word is a
single character. So a path that is followed by blanks and the letter of a key is read back,
whatever blanks and short words it has itself; an argument that ends otherwise is a path as a whole.
To unwatch takes the whole argument for the path, so that it takes back what was watched with the
path and a key.

* `Argument.splitKey_append`, `Argument.splitKey_whole` : which word is taken for the key.
* `Argument.Reads` : what the two commands do with an argument.
* `HostedSession.Tracks.takenBack` : to unwatch takes back what was watched.
* `HostedSession.arguments_recovered` : the path is recovered from every argument.
-/

set_option autoImplicit false

namespace ChordSheet

/-! ## The last word -/

namespace Text

/-- What stands behind the last blank of a text is its last word. -/
theorem getLast?_words_append_cons {blank : Char} (hblank : isBlank blank = true)
    {word : List Char} (hne : word ≠ []) (hword : ∀ c ∈ word, isBlank c = false)
    (before : List Char) : (words (before ++ blank :: word)).getLast? = some word := by
  have hlast : words word = [word] := by
    simpa [words] using words_append_of_word (s := []) hne hword (by simp)
  rw [words_append_cons hblank, hlast, List.getLast?_concat]

end Text

namespace Argument

variable {a : List Char} {c : Char}

/-- A path, blanks and a single character are taken apart, whatever stands in the path. -/
theorem splitKey_append {path blanks : List Char} (hpath : Text.Trimmed path) (hne : blanks ≠ [])
    (hblanks : Text.allBlank blanks = true) (hc : Text.isBlank c = false) :
    splitKey (path ++ blanks ++ [c]) = (path, some [c]) := by
  obtain ⟨before, blank, rfl⟩ := (List.eq_nil_or_concat' blanks).resolve_left hne
  rw [Text.allBlank, List.all_append, Bool.and_eq_true] at hblanks
  have hblank : Text.isBlank blank = true := by simpa using hblanks.2
  have hcut := Text.cutLast?_append_cons (path ++ before) hblank (b := [c]) (by simpa using hc)
  have hsplit : path ++ (before ++ [blank]) ++ [c] = path ++ before ++ blank :: [c] := by simp
  rw [hsplit, splitKey, hcut]
  dsimp only
  rw [Text.trimEnd_append_of_allBlank path hblanks.1, hpath.trimEnd_eq]

/-- An argument whose last word is longer than a character, or that has no blank, is a whole. -/
theorem splitKey_whole (h : (∀ b ∈ a, Text.isBlank b = false) ∨
    ∀ c, (Text.words a).getLast? ≠ some [c]) : splitKey a = (a, none) := by
  unfold splitKey
  split
  · rename_i path c hcut
    obtain ⟨b, hb, hc, rfl⟩ := Text.append_of_cutLast? hcut
    rcases h with hblank | hlast
    · exact absurd (hblank b (by simp)) (by simp [hb])
    · exact absurd (Text.getLast?_words_append_cons hb (List.cons_ne_nil c []) hc path) (hlast c)
  · rfl

/-- A last word of one character, behind a blank, is taken for the key. -/
theorem splitKey_single (ha : Text.Trimmed a) (hblank : ∃ b ∈ a, Text.isBlank b = true)
    (hlast : (Text.words a).getLast? = some [c]) : (splitKey a).2 = some [c] := by
  obtain ⟨b, hb, hbb⟩ := hblank
  cases hcut : Text.cutLast? Text.isBlank a with
  | none => exact absurd (Text.cutLast?_eq_none hcut b hb) (by simp [hbb])
  | some parts =>
    obtain ⟨path, word⟩ := parts
    obtain ⟨d, hd, hword, rfl⟩ := Text.append_of_cutLast? hcut
    have hne : word ≠ [] := by
      rintro rfl
      exact absurd (ha.last d (by simp)) (by simp [hd])
    rw [Text.getLast?_words_append_cons hd hne hword] at hlast
    obtain rfl := Option.some.inj hlast
    rw [splitKey, hcut]

end Argument

/-! ## The key of an argument -/

theorem Config.targetKey_of_spelt (config : Config) {k : Key} {c : Char} (hc : k.Spelt c) :
    config.targetKey (some c.toString) = .ok k := by
  rw [targetKey, hc.parse]
  rfl

theorem Config.targetKey_of_not_spelt (config : Config) {c : Char} (hc : ∀ k : Key, ¬ k.Spelt c) :
    config.targetKey (some c.toString) = .error (.badKey (.unsupportedKey c.toString)) := by
  have hparse : Key.parse c.toString = .error (.unsupportedKey c.toString) := by
    refine Key.parse_eq_error_iff.mpr ⟨fun k hk => ?_, rfl⟩
    obtain ⟨d, htrim, hd⟩ := Key.parse_eq_ok_iff.mp hk
    have hmem : d ∈ c.toString.toList := Text.mem_of_mem_trim (htrim ▸ List.mem_singleton_self d)
    obtain rfl : d = c := by simpa using hmem
    exact hc k hd
  rw [targetKey, hparse]
  rfl

namespace Argument

variable {config : Config} {argument : String} {p : Path} {k : Key} {c : Char}

/-- An argument that is there is split, and its key looked up. -/
theorem pathAndKey_of_split {path : List Char} {key : Option (List Char)} (hne : argument ≠ "")
    (hsplit : splitKey argument.toList = (path, key)) (config : Config) (form : String) :
    pathAndKey config form argument =
      (config.targetKey (key.map String.ofList)).map fun k => (String.ofList path, k) := by
  rw [pathAndKey, if_neg hne, hsplit]
  rfl

/-- An argument that consists of a path without blanks at its ends, blanks, and the letter of a
key. -/
structure PathThenKey (argument : String) (p : Path) (k : Key) : Prop where
  ne_empty : p ≠ ""
  trimmed : Text.Trimmed p.toList
  split : ∃ (blanks : String) (c : Char), argument = p ++ blanks ++ c.toString ∧ blanks ≠ "" ∧
    Text.allBlank blanks.toList = true ∧ k.Spelt c

/-- A path, blanks and the letter of a key are read as the path and the key. -/
theorem PathThenKey.pathAndKey (h : PathThenKey argument p k) (config : Config) (form : String) :
    pathAndKey config form argument = .ok (p, k) := by
  obtain ⟨blanks, c, rfl, hne, hblanks, hc⟩ := h.split
  have hlist : (p ++ blanks ++ c.toString).toList = p.toList ++ blanks.toList ++ [c] := by
    simp [String.toList_append]
  have hargument : p ++ blanks ++ c.toString ≠ "" := by
    intro he
    rw [he] at hlist
    exact absurd hlist.symm (by simp)
  have hsplit := splitKey_append h.trimmed (by simpa using hne) hblanks hc.isBlank
  rw [← hlist] at hsplit
  rw [pathAndKey_of_split hargument hsplit, String.ofList_toList]
  show (config.targetKey (some c.toString)).map _ = _
  rw [config.targetKey_of_spelt hc]
  rfl

/-- What the two commands that take a path and a key do with an argument. -/
structure Reads (config : Config) (argument : String) (r : Except CommandError (Path × Key)) :
    Prop where
  watch : Command.watch config argument =
    match r with
    | .ok (p, k) => .watch p k
    | .error e => .error e
  transpose : ∀ (m : Type → Type) [Monad m] [FileSystem m],
    (Command.transpose config argument : m Response) =
      match r with
      | .ok (p, k) => Command.transposeFile config p k
      | .error e => pure (.error e)

theorem reads_of_pathAndKey {r : Except CommandError (Path × Key)}
    (h : ∀ form, pathAndKey config form argument = r) : Reads config argument r where
  watch := by
    cases r <;> simp only [Command.watch, h]
  transpose m _ _ := by
    cases r <;> simp only [Command.transpose, h]

end Argument

/-! ## Watching and unwatching -/

namespace HostedSession

open Session

variable {x : HostedSession} {p : Path} {k : Key} {l : Location}

/-- To forget what is not watched changes nothing. -/
theorem Tracks.forgotten_eq_self (hx : x.Tracks) (hk : x.session.watches.keyOf? l.path = none) :
    x.forgotten l = x := by
  have hkept : ∀ m ∈ x.host.subscribed, decide (m ≠ l) = true := by
    intro m hm
    rw [decide_eq_true_eq]
    rintro rfl
    obtain ⟨_, k, hkey⟩ := hx.keyed m hm
    rw [hk] at hkey
    cases hkey
  rw [forgotten, List.filter_eq_self.mpr hkept, WatchTable.erase_eq_self hk]

/-- To forget what was just watched leaves no trace of it but the transposition. -/
theorem Watched.forgotten_eq {z : List Message × HostedSession} (hw : Watched x p k l z) :
    z.2.forgotten l = (x.transposed p k).forgotten l := by
  have hsubscribed :
      z.2.host.subscribed.filter (· ≠ l) = x.host.subscribed.filter (· ≠ l) := by
    have hregistered := hw.registered
    split at hregistered
    · rw [hregistered.2]
    · rw [hregistered.2]
      simp
  simp only [forgotten, transposed, Host.transposed, hsubscribed, hw.disk, hw.session,
    WatchTable.erase_set]

/-- What is watched at a path and then watched no longer is taken back. -/
structure TakenBack (x : HostedSession) (p : Path) (k : Key)
    (watched after : List Message × HostedSession) : Prop where
  /-- What is not found is neither watched nor unwatched. -/
  missing : x.host.disk.found? p = none → watched.2 = x ∧ after = ([notWatched p], x)
  /-- What is found is watched with the key, and then it is transposed but not watched. -/
  found : ∀ l, x.host.disk.found? p = some l →
    watched.2.session.watches.keyOf? l.path = some k ∧
      after = ([Session.unwatched p], (x.transposed p k).forgotten l)
  /-- If it was not watched before, only its transposition remains. -/
  unseen : ∀ l, x.host.disk.found? p = some l → x.session.watches.keyOf? l.path = none →
    after.2 = x.transposed p k

/-- **To unwatch takes back what was watched.** -/
theorem Tracks.takenBack (hx : x.Tracks) (p : Path) (k : Key) :
    TakenBack x p k (x.respond (.watch p k)) ((x.respond (.watch p k)).2.respond (.unwatch p)) := by
  generalize hwatched : x.respond (.watch p k) = watched
  have hfound : ∀ l, x.host.disk.found? p = some l →
      watched.2.session.watches.keyOf? l.path = some k ∧
        watched.2.respond (.unwatch p) =
          ([Session.unwatched p], (x.transposed p k).forgotten l) := by
    intro l hl
    have hw : Watched x p k l watched := hwatched ▸ hx.respond_watch_of_found hl k
    have hkey : watched.2.session.watches.keyOf? l.path = some k := by
      rw [hw.session, WatchTable.keyOf?_set, if_pos rfl]
    have hcanonical : watched.2.host.disk.canonical? p = some l := by
      obtain ⟨hfollow, hnode⟩ := Disk.canonical?_eq_some_iff.mp hw.canonical?
      obtain ⟨n, hn⟩ := Option.isSome_iff_exists.mp hnode
      obtain ⟨m, hm, _⟩ := hw.grows.keeps l n hn
      exact Disk.canonical?_eq_some_iff.mpr ⟨hw.grows.follow hfollow, by simp [hm]⟩
    refine ⟨hkey, ?_⟩
    rcases (hw.tracks hx).respond_unwatch p with ⟨_, hnone⟩ | ⟨l', _, hcanonical', _, hrespond⟩
    · rw [hnone l hcanonical] at hkey
      cases hkey
    · obtain rfl := Option.some.inj (hcanonical'.symm.trans hcanonical)
      rw [← hw.forgotten_eq]
      exact hrespond
  refine ⟨fun hmissing => ?_, hfound, fun l hl hnone => ?_⟩
  · have hnone : ∀ l n, x.host.disk.canonical? p = some l →
        x.host.disk.lookup l.path ≠ .ok (l, n) := by
      intro l n hcanonical hlookup
      rw [hx.sound.found?_eq_some_iff.mpr ⟨hcanonical, n, hlookup⟩] at hmissing
      cases hmissing
    have hsame : watched.2 = x := by
      rcases hx.respond_watch p k with ⟨⟨e, hrefused⟩, _⟩ | ⟨l, hw⟩
      · exact congrArg Prod.snd (hwatched.symm.trans hrefused)
      · obtain ⟨n, hlookup⟩ := hw.lookup
        exact absurd hlookup (hnone l n hw.canonical?)
    rw [hsame]
    refine ⟨rfl, ?_⟩
    rcases hx.respond_unwatch p with ⟨hidle, _⟩ | ⟨l, key, hcanonical, hkey, _⟩
    · exact hidle
    · rw [← Host.canonical_eq_path hcanonical] at hkey
      obtain ⟨l', n, hcanonical', _, hlookup, _⟩ := hx.canonical? hkey
      exact absurd hlookup (hnone l' n hcanonical')
  · rw [(hfound l hl).2]
    exact (hx.transposed p k).forgotten_eq_self hnone

/-- A session that was asked to watch something is as open as before. -/
theorem Tracks.ended_respond_watch (hx : x.Tracks) (p : Path) (k : Key) :
    (x.respond (.watch p k)).2.session.ended = x.session.ended := by
  rcases hx.respond_watch p k with ⟨⟨e, hrefused⟩, _⟩ | ⟨l, hw⟩
  · rw [hrefused]
  · rw [hw.session]

/-- **The path is recovered from every argument.** A path that is followed by blanks and the letter
of a key is read as the path and the key; an argument without a blank, or whose last word is longer
than a character, is a path as a whole, and goes with the default key; a last word of one character
that is no key is refused. To unwatch means the path that is given, so that it takes back what was
watched with the path and a key, and so do the lines that are typed with these arguments. -/
theorem arguments_recovered :
    (∀ (config : Config) (argument : String) (p : Path) (k : Key),
      Argument.PathThenKey argument p k → Argument.Reads config argument (.ok (p, k))) ∧
    (∀ (config : Config) (argument : String), argument ≠ "" →
      (∀ c ∈ argument.toList, Text.isBlank c = false) ∨
        (∀ c, (Text.words argument.toList).getLast? ≠ some [c]) →
      Argument.Reads config argument
        (match config.defaultKey with
        | some k => .ok (argument, k)
        | none => .error .noTarget)) ∧
    (∀ (config : Config) (argument : String) (c : Char), Text.Trimmed argument.toList →
      (∃ b ∈ argument.toList, Text.isBlank b = true) →
      (Text.words argument.toList).getLast? = some [c] → (∀ k : Key, ¬ k.Spelt c) →
      Argument.Reads config argument (.error (.badKey (.unsupportedKey c.toString)))) ∧
    (∀ p : Path, p ≠ "" → Command.unwatch p = .unwatch p) ∧
    ∀ {disk : Disk}, disk.Sound → ∀ (context : Context) (as : List Action) (argument : String)
      (p : Path) (k : Key), Argument.PathThenKey argument p k →
      let x := ((new disk context).play as).2
      let watched := x.respond (Command.watch x.session.context.config argument)
      let after := watched.2.respond (Command.unwatch p)
      TakenBack x p k watched after ∧
        (x.session.ended = false →
          (∀ text, Calls text .watch argument → x.act (.line text) = watched) ∧
          ∀ text, Calls text .unwatch p → watched.2.act (.line text) = after) := by
  have hkeyed : ∀ (config : Config) (argument : String) (p : Path) (k : Key),
      Argument.PathThenKey argument p k → Argument.Reads config argument (.ok (p, k)) :=
    fun config _ _ _ h => Argument.reads_of_pathAndKey (h.pathAndKey config)
  have hunwatch : ∀ p : Path, p ≠ "" → Command.unwatch p = .unwatch p := fun p hne => if_neg hne
  refine ⟨hkeyed, ?_, ?_, hunwatch, ?_⟩
  · intro config argument hne hlast
    refine Argument.reads_of_pathAndKey fun form => ?_
    rw [Argument.pathAndKey_of_split hne (Argument.splitKey_whole hlast), String.ofList_toList,
      Option.map_none, Config.targetKey]
    cases config.defaultKey <;> rfl
  · intro config argument c htrimmed hblank hlast hc
    refine Argument.reads_of_pathAndKey fun form => ?_
    have hne : argument ≠ "" := by
      rintro rfl
      obtain ⟨b, hb, _⟩ := hblank
      cases hb
    have hsplit : Argument.splitKey argument.toList =
        ((Argument.splitKey argument.toList).1, some [c]) :=
      Prod.ext rfl (Argument.splitKey_single htrimmed hblank hlast)
    rw [Argument.pathAndKey_of_split hne hsplit]
    show (config.targetKey (some c.toString)).map _ = _
    rw [config.targetKey_of_not_spelt hc]
    rfl
  · intro disk hd context as argument p k h x watched after
    have hx : x.Tracks := (tracks_new hd context).play as
    have hwatched : watched = x.respond (.watch p k) :=
      congrArg x.respond (hkeyed _ argument p k h).watch
    have hafter : after = watched.2.respond (.unwatch p) :=
      congrArg watched.2.respond (hunwatch p h.ne_empty)
    refine ⟨?_, fun hopen => ⟨fun text hc => step_line_of_response hopen hc rfl, fun text hc => ?_⟩⟩
    · rw [hafter, hwatched]
      exact hx.takenBack p k
    · refine step_line_of_response ?_ hc rfl
      rw [hwatched, hx.ended_respond_watch, hopen]

theorem arguments_recovered_short_words :
    let disk : Disk := ⟨[(["a song g"], .file "Key: G\nG/D    Em\n".toUTF8)], []⟩
    let x := new disk ⟨.standard, "config"⟩
    let watched := x.respond (Command.watch .standard "a song g\u3000 d")
    let after := watched.2.respond (Command.unwatch "a song g")
    Argument.Reads .standard "a song g\u3000 d" (.ok ("a song g", .D)) ∧
      Argument.Reads .standard "a song.txt" (.error .noTarget) ∧
      Argument.Reads .standard "a song \u00e9" (.error (.badKey (.unsupportedKey "\u00e9"))) ∧
      Command.unwatch "a song g" = .unwatch "a song g" ∧
      watched.2.session.watches.keyOf? "/a song g" = some .D ∧
      after = ([Session.unwatched "a song g"], x.transposed "a song g" .D) := by
  intro disk x watched after
  have hd : disk.Sound := Disk.sound_single (by constructor <;> decide) _ _
  have hsplit : Argument.PathThenKey "a song g\u3000 d" "a song g" .D :=
    ⟨by decide, by decide, "\u3000 ", 'd', by decide, by decide, by decide, .inr rfl⟩
  have hword : (Text.words "a song.txt".toList).getLast? = some "song.txt".toList := by
    decide +kernel
  have hwhole : ∀ c, (Text.words "a song.txt".toList).getLast? ≠ some [c] := by
    intro c hc
    rw [hword] at hc
    cases hc
  obtain ⟨hread, hlong, hforeign, hpath, hundo⟩ := arguments_recovered
  have hfound : ((new disk ⟨.standard, "config"⟩).play []).2.host.disk.found? "a song g" =
      some ["a song g"] := by decide +kernel
  have hroot : Location.path ["a song g"] = "/a song g" := by decide +kernel
  obtain ⟨hback, -⟩ := hundo hd ⟨.standard, "config"⟩ [] _ _ _ hsplit
  obtain ⟨hkey, hsaid⟩ := hback.found _ hfound
  rw [hroot] at hkey
  refine ⟨hread _ _ _ _ hsplit, hlong .standard _ (by decide) (.inr hwhole), ?_,
    hpath _ (by decide), hkey, Prod.ext (congrArg Prod.fst hsaid) (hback.unseen _ hfound rfl)⟩
  refine hforeign .standard "a song \u00e9" '\u00e9' (by decide) ⟨' ', by decide, by decide⟩
    (by decide +kernel) fun k => ?_
  cases k <;> unfold Key.Spelt <;> decide

end HostedSession

end ChordSheet
