import ChordSheet.Proofs.SavedSettings

/-!
# The latest assignment counts

Settings are read line by line, and a later line takes back what an earlier one said. So each
setting has the value of the last line that assigns one to its name. The two names are not treated
alike: a default key that is none takes back an earlier one, but an empty suffix does not, since it
does not count. All other lines may stand anywhere between them.

* `Config.Idle` : the lines that have nothing to do with the settings.
* `Config.latest?_eq_iff` : the last value for a name that counts.
* `Config.foldl_readLine_eq` : reading lines leaves the latest values.
* `Config.parse_latest` : what is read is what the latest assignments say, and nothing else matters.
-/

set_option autoImplicit false

namespace ChordSheet

/-! ## Texts that end with a line -/

namespace Text

/-- A text whose last line is ended by a line feed, or an empty one. -/
def Ended (s : List Char) : Prop := s = [] ∨ s.getLast? = some '\n'

/-- A line feed parts the lines of a text. -/
theorem lines_append_newline (a b : List Char) :
    lines (a ++ '\n' :: b) = lines (a ++ ['\n']) ++ lines b := by
  induction a using pieces_induction '\n' with
  | whole a ha =>
    rw [lines_append_cons ha, lines_append_cons ha]
    rfl
  | cut l s hl ih => simp [lines_append_cons hl, ih]

theorem Ended.lines_append {a : List Char} (h : Ended a) (b : List Char) :
    lines (a ++ b) = lines a ++ lines b := by
  rcases h with rfl | h
  · rfl
  · obtain ⟨s, rfl⟩ := List.getLast?_eq_some_iff.mp h
    simpa using lines_append_newline s b

end Text

namespace Config

variable {name value line : List Char}

/-! ## Other lines -/

/-- A line that has nothing to do with the settings: a blank one, a comment, a line without an
equals sign, or one that assigns a value to another name. -/
inductive Idle (line : List Char) : Prop where
  | blank (h : Text.trim line = [])
  | comment (h : (Text.trim line).head? = some '#')
  | signless (h : '=' ∉ line)
  | other (name value : List Char) (h : Assigns line name value)
      (hkey : name ≠ "default_key".toList) (hsuffix : name ≠ "output_suffix".toList)

theorem assignment?_of_not_mem (h : '=' ∉ Text.trim line) : assignment? line = none := by
  rw [Option.eq_none_iff_forall_ne_some]
  rintro ⟨name, value⟩ hassign
  obtain ⟨_, before, after, hline, _⟩ := assigns_iff.mpr hassign
  exact h (hline ▸ by simp)

/-- A line that has nothing to do with the settings leaves them. -/
theorem Idle.readLine_eq (h : Idle line) (c : Config) : c.readLine line = c := by
  have hignored : assignment? line = none → c.readLine line = c := by
    intro hnone
    rw [readLine, hnone]
  cases h with
  | blank h => exact hignored (assignment?_of_not_mem (by simp [h]))
  | comment h => exact hignored (assignment?_of_comment h)
  | signless h => exact hignored (assignment?_of_not_mem fun hmem => h (Text.mem_of_mem_trim hmem))
  | other name value h hkey hsuffix =>
    rw [readLine, assigns_iff.mp h]
    dsimp only
    rw [assign, if_neg hkey, if_neg hsuffix]

/-- Lines that have nothing to do with the settings may stand anywhere. -/
theorem foldl_readLine_append {others : List (List Char)} (h : ∀ l ∈ others, Idle l)
    (before after : List (List Char)) (c : Config) :
    (before ++ (others ++ after)).foldl readLine c = (before ++ after).foldl readLine c := by
  have hothers : ∀ d, others.foldl readLine d = d := by
    intro d
    induction others with
    | nil => rfl
    | cons l ls ih =>
      rw [List.foldl_cons, (h l List.mem_cons_self).readLine_eq]
      exact ih fun m hm => h m (List.mem_cons_of_mem _ hm)
  simp only [List.foldl_append, hothers]

/-! ## The latest value -/

/-- The value of the last of some lines that assigns a name one that counts, if there is any. -/
inductive Latest (name : List Char) (counts : List Char → Prop) (ls : List (List Char)) :
    Option (List Char) → Prop where
  | found {before after : List (List Char)} {line value : List Char}
      (split : ls = before ++ line :: after) (assigns : Assigns line name value)
      (counted : counts value) (last : ∀ l ∈ after, ∀ v, Assigns l name v → ¬ counts v) :
      Latest name counts ls (some value)
  | missing (never : ∀ l ∈ ls, ∀ v, Assigns l name v → ¬ counts v) : Latest name counts ls none

section Search

variable (name) (counts : List Char → Prop) [DecidablePred counts]

/-- The value that a line assigns to a name, if it counts. -/
def value? (line : List Char) : Option (List Char) :=
  match assignment? line with
  | some (n, v) => if n = name ∧ counts v then some v else none
  | none => none

/-- The search for the latest value, from the last line on. -/
def latest? (ls : List (List Char)) : Option (List Char) :=
  ls.reverse.findSome? (value? name counts)

variable {name counts}

theorem value?_eq_some_iff : value? name counts line = some value ↔
    Assigns line name value ∧ counts value := by
  rw [assigns_iff]
  unfold value?
  split
  · rename_i n v hassign
    simp only [hassign, Option.ite_none_right_eq_some, Option.some.injEq, Prod.mk.injEq]
    constructor
    · rintro ⟨⟨hname, hcounts⟩, rfl⟩
      exact ⟨⟨hname, rfl⟩, hcounts⟩
    · rintro ⟨⟨hname, rfl⟩, hcounts⟩
      exact ⟨⟨hname, hcounts⟩, rfl⟩
  · rename_i hnone
    simp [hnone]

theorem value?_eq_none_iff : value? name counts line = none ↔
    ∀ v, Assigns line name v → ¬ counts v := by
  rw [Option.eq_none_iff_forall_ne_some]
  simp only [Ne, value?_eq_some_iff, not_and]

/-- **The search finds the latest value.** -/
theorem latest?_eq_iff {ls : List (List Char)} {r : Option (List Char)} :
    latest? name counts ls = r ↔ Latest name counts ls r := by
  have hmissing : latest? name counts ls = none ↔
      ∀ l ∈ ls, ∀ v, Assigns l name v → ¬ counts v := by
    simp only [latest?, List.findSome?_eq_none_iff, List.mem_reverse, value?_eq_none_iff]
  have hfound : ∀ value, latest? name counts ls = some value ↔ ∃ before line after,
      ls = before ++ line :: after ∧ (Assigns line name value ∧ counts value) ∧
        ∀ l ∈ after, ∀ v, Assigns l name v → ¬ counts v := by
    intro value
    simp only [latest?, List.findSome?_eq_some_iff, value?_eq_some_iff, value?_eq_none_iff]
    constructor
    · rintro ⟨after, line, before, hsplit, hline, hafter⟩
      refine ⟨before.reverse, line, after.reverse, ?_, hline, by simpa using hafter⟩
      simpa using congrArg List.reverse hsplit
    · rintro ⟨before, line, after, hsplit, hline, hafter⟩
      exact ⟨after.reverse, line, before.reverse, by simp [hsplit], hline, by simpa using hafter⟩
  constructor
  · rintro rfl
    cases hvalue : latest? name counts ls with
    | none => exact .missing (hmissing.mp hvalue)
    | some value =>
      obtain ⟨before, line, after, hsplit, ⟨hassigns, hcounts⟩, hlast⟩ := (hfound value).mp hvalue
      exact .found hsplit hassigns hcounts hlast
  · intro h
    cases h with
    | found hsplit hassigns hcounts hlast =>
      exact (hfound _).mpr ⟨_, _, _, hsplit, ⟨hassigns, hcounts⟩, hlast⟩
    | missing hnever => exact hmissing.mpr hnever

theorem latest?_concat (ls : List (List Char)) (line : List Char) :
    latest? name counts (ls ++ [line]) = (value? name counts line).or (latest? name counts ls) := by
  rw [latest?, List.reverse_append]
  cases hvalue : value? name counts line <;> simp [latest?, hvalue]

end Search

/-! ## Reading lines -/

/-- The settings with a text for the default key and a text for the suffix, or without. -/
def ofLatest (key suffix : Option (List Char)) : Config where
  defaultKey := key.bind fun value => (Key.parse (String.ofList value)).toOption
  outputSuffix := (suffix.map String.ofList).getD standard.outputSuffix

/-- One more line takes the place of the values that it assigns, if they count. -/
theorem readLine_ofLatest (key suffix : Option (List Char)) (line : List Char) :
    (ofLatest key suffix).readLine line =
      ofLatest ((value? "default_key".toList (fun _ => True) line).or key)
        ((value? "output_suffix".toList (· ≠ []) line).or suffix) := by
  have hnames : "default_key".toList ≠ "output_suffix".toList := by decide
  rw [readLine, value?, value?]
  cases assignment? line with
  | none => rfl
  | some found =>
    obtain ⟨name, value⟩ := found
    dsimp only
    unfold assign
    by_cases hkey : name = "default_key".toList
    · rw [if_pos hkey, if_pos ⟨hkey, trivial⟩, if_neg fun h => hnames (hkey.symm.trans h.1)]
      rfl
    · rw [if_neg hkey, if_neg (not_and_of_not_left True hkey)]
      by_cases hsuffix : name = "output_suffix".toList
      · rw [if_pos hsuffix]
        by_cases hempty : value = []
        · rw [if_pos hempty, if_neg fun h => h.2 hempty]
          rfl
        · rw [if_neg hempty, if_pos ⟨hsuffix, hempty⟩]
          rfl
      · rw [if_neg hsuffix, if_neg fun h => hsuffix h.1]
        rfl

/-- **Reading lines leaves the latest values.** -/
theorem foldl_readLine_eq (ls : List (List Char)) : ls.foldl readLine standard =
    ofLatest (latest? "default_key".toList (fun _ => True) ls)
      (latest? "output_suffix".toList (· ≠ []) ls) := by
  induction ls using List.reverseRecOn with
  | nil => rfl
  | append_singleton ls line ih =>
    rw [List.foldl_concat, ih, readLine_ofLatest, latest?_concat, latest?_concat]

/-- The settings that lines name: the key is read from the last value for it, whatever that is, and
the suffix is the last value for it that is not empty. -/
structure Named (ls : List (List Char)) (c : Config) : Prop where
  key : ∃ latest, Latest "default_key".toList (fun _ => True) ls latest ∧
    c.defaultKey = match latest with
      | some value => (Key.parse (String.ofList value)).toOption
      | none => none
  suffix : ∃ latest, Latest "output_suffix".toList (· ≠ []) ls latest ∧
    c.outputSuffix = match latest with
      | some value => String.ofList value
      | none => "_transposed_"

theorem named_iff {ls : List (List Char)} {c : Config} :
    Named ls c ↔ ls.foldl readLine standard = c := by
  rw [foldl_readLine_eq]
  constructor
  · rintro ⟨⟨key, hkey, hdefault⟩, ⟨suffix, hsuffix, houtput⟩⟩
    rw [latest?_eq_iff.mpr hkey, latest?_eq_iff.mpr hsuffix]
    obtain ⟨defaultKey, outputSuffix⟩ := c
    obtain rfl : defaultKey = _ := hdefault
    obtain rfl : outputSuffix = _ := houtput
    cases key <;> cases suffix <;> rfl
  · rintro rfl
    refine ⟨⟨_, latest?_eq_iff.mp rfl, ?_⟩, ⟨_, latest?_eq_iff.mp rfl, ?_⟩⟩
    · cases latest? "default_key".toList (fun _ => True) ls <;> rfl
    · cases latest? "output_suffix".toList (· ≠ []) ls <;> rfl

/-- **The latest assignments count.** What is read from a text is what its lines name. Lines that
have nothing to do with the settings change nothing, wherever they are put in between. -/
theorem parse_latest :
    (∀ (content : String) (c : Config),
      parse content = c ↔ Named (Text.lines content.toList) c) ∧
    (∀ (content longer : String) (before others after : List (List Char)),
      Text.lines content.toList = before ++ after →
      Text.lines longer.toList = before ++ (others ++ after) → (∀ l ∈ others, Idle l) →
        parse longer = parse content) ∧
    ∀ first more rest : String, Text.Ended first.toList → Text.Ended more.toList →
      (∀ l ∈ Text.lines more.toList, Idle l) →
        parse (first ++ more ++ rest) = parse (first ++ rest) := by
  have hlines : ∀ (content longer : String) (before others after : List (List Char)),
      Text.lines content.toList = before ++ after →
      Text.lines longer.toList = before ++ (others ++ after) → (∀ l ∈ others, Idle l) →
        parse longer = parse content := by
    intro content longer before others after hcontent hlonger hothers
    rw [parse, parse, hcontent, hlonger, foldl_readLine_append hothers]
  refine ⟨fun content c => named_iff.symm, hlines, ?_⟩
  intro first more rest hfirst hmore hidle
  refine hlines _ _ (Text.lines first.toList) _ (Text.lines rest.toList) ?_ ?_ hidle
  · rw [String.toList_append, hfirst.lines_append]
  · rw [String.toList_append, String.toList_append, List.append_assoc, hfirst.lines_append,
      hmore.lines_append]

theorem parse_latest_two_assignments :
    let first := "default_key=D\noutput_suffix=_in_#=\r\n"
    let more := "  # output_suffix=x\n\ndefault key=A\nkey\n"
    let rest := " default_key = Bb\noutput_suffix=\n"
    parse (first ++ rest) = ⟨none, "_in_#="⟩ ∧
      parse (first ++ more ++ rest) = parse (first ++ rest) := by
  intro first more rest
  have hkey : Latest "default_key".toList (fun _ => True) (Text.lines (first ++ rest).toList)
      (some "Bb".toList) := latest?_eq_iff.mp (by decide +kernel)
  have hsuffix : Latest "output_suffix".toList (· ≠ []) (Text.lines (first ++ rest).toList)
      (some "_in_#=".toList) := latest?_eq_iff.mp (by decide +kernel)
  have hlines : Text.lines more.toList =
      ["  # output_suffix=x".toList, [], "default key=A".toList, "key".toList] := by
    decide +kernel
  have hother : Assigns "default key=A".toList "default key".toList "A".toList :=
    assigns_iff.mpr (by decide +kernel)
  refine ⟨(parse_latest.1 _ _).mpr ⟨⟨_, hkey, rfl⟩, ⟨_, hsuffix, rfl⟩⟩,
    parse_latest.2.2 first more rest (.inr (by decide)) (.inr (by decide)) ?_⟩
  rw [hlines]
  simp only [List.forall_mem_cons, List.not_mem_nil, false_implies, implies_true, and_true]
  exact ⟨.comment (by decide), .blank rfl, .other _ _ hother (by decide) (by decide),
    .signless (by decide)⟩

end Config

end ChordSheet
