import ChordSheet.Record.Codec

/-!
# Recorded forms

What is recorded reads back, and what is read was recorded well: every form that is accepted, be it
a name in an object of its own, a record with further fields or the values of its fields in order,
gives a value that is recorded in the standard form and reads back from there. Nothing else is
accepted: no name that is not known, no record without one of its fields, no count out of range.

* `Named.faithful`, `Named.tagged` : values that are recorded by name.
* `Codec.decodeReport?_object_eq_some_iff`, `Codec.placedChord?_object_eq_some_iff` : what is read
  from the fields of a record.
* `records_faithful` : the recorded forms of keys, degrees, kinds of lines, reports and errors.
-/

set_option autoImplicit false

namespace ChordSheet.Record

open Codec

/-! ## Faithful records -/

/-- What can be stored reads back, different values have different forms, and what is read from any
form can be stored and reads back from the form in which it is stored. -/
structure Faithful (α : Type) [Codec α] (Storable : α → Prop) : Prop where
  reads_back : ∀ a, Storable a → decode? (encode a) = some a
  distinct : ∀ a b : α, encode a = encode b → a = b
  rereads : ∀ (v : Value) (a : α), decode? v = some a → Storable a ∧ decode? (encode a) = some a

/-- Values are recorded by one of some names: the *units* by the name alone, the others by an object
with the name for its only field. The name of a unit may also stand in an object of its own, with
the value null. -/
structure Tagged (α : Type) [Codec α] (names units : List String) : Prop where
  form : ∀ a : α, (∃ name ∈ units, encode a = .text name) ∨
    ∃ name ∈ names, name ∉ units ∧ ∃ v, encode a = .object [(name, v)]
  null_payload : ∀ name, (decode? (.object [(name, .null)]) : Option α) = decode? (.text name)
  unit_payload : ∀ name ∈ units, ∀ v, v ≠ .null → (decode? (.object [(name, v)]) : Option α) = none
  no_payload : ∀ name, name ∉ units → (decode? (.text name) : Option α) = none
  unknown : ∀ name, name ∉ names → ∀ v, (decode? (.object [(name, v)]) : Option α) = none
  one_field : ∀ fields, fields.length ≠ 1 → (decode? (.object fields) : Option α) = none

/-- A count that is out of range. -/
def OutOfRange (n : Int) : Prop := n < 0 ∨ countLimit ≤ n

/-- A record is read from fields with some names, of which some hold counts, or from the values of
these fields in order. Fields of other names do not matter; a field that is missing or given twice,
a wrong number of values or a count out of range stops the reading. -/
structure ReadsFields {α : Type} (decode : Value → Option α) (names counts : List String) :
    Prop where
  other : ∀ before name v after, name ∉ names →
    decode (.object (before ++ (name, v) :: after)) = decode (.object (before ++ after))
  missing : ∀ fields, ∀ name ∈ names, (∀ v, (name, v) ∉ fields) → decode (.object fields) = none
  repeated : ∀ fields, ∀ name ∈ names, 1 < (fields.map Prod.fst).count name →
    decode (.object fields) = none
  range : ∀ fields, ∀ name ∈ counts, ∀ n, (name, .integer n) ∈ fields → OutOfRange n →
    decode (.object fields) = none
  items_length : ∀ items, items.length ≠ names.length → decode (.array items) = none
  items_range : ∀ items n, .integer n ∈ items → OutOfRange n → decode (.array items) = none

/-! ## Values recorded by name -/

/-- Some constants that are recorded by name and found by it. -/
structure Named (α : Type) [Codec α] (name : α → String) (constants : List α) : Prop where
  encode_eq : ∀ a : α, encode a = .text (name a)
  decode?_eq : ∀ v, (decode? v : Option α) = named? name constants v
  find?_name : ∀ a, constants.find? (fun c => name c == name a) = some a

namespace Named

variable {α : Type} [Codec α] {name : α → String} {constants : List α}

theorem decode?_eq_some_iff (h : Named α name constants) {v : Value} {a : α} :
    (decode? v : Option α) = some a ↔ v = .text (name a) ∨ v = .object [(name a, .null)] := by
  rw [h.decode?_eq, named?_eq_some_iff h.find?_name]

theorem faithful (h : Named α name constants) : Faithful α fun _ => True := by
  have hback : ∀ a : α, decode? (encode a) = some a := by
    intro a
    rw [h.encode_eq, h.decode?_eq_some_iff]
    exact .inl rfl
  refine ⟨fun a _ => hback a, ?_, fun v a _ => ⟨trivial, hback a⟩⟩
  intro a b hab
  have ha := hback a
  rw [hab, hback b] at ha
  exact (Option.some.inj ha).symm

theorem mem_map (h : Named α name constants) (a : α) : name a ∈ constants.map name :=
  List.mem_map_of_mem (List.mem_of_find?_eq_some (h.find?_name a))

theorem tagged (h : Named α name constants) :
    Tagged α (constants.map name) (constants.map name) := by
  -- whatever is neither of the two spellings of a constant is refused
  have hnone : ∀ v, (∀ a, v ≠ .text (name a) ∧ v ≠ .object [(name a, .null)]) →
      (decode? v : Option α) = none := by
    intro v hv
    rw [Option.eq_none_iff_forall_ne_some]
    intro a ha
    rcases h.decode?_eq_some_iff.mp ha with heq | heq
    · exact (hv a).1 heq
    · exact (hv a).2 heq
  refine ⟨fun a => .inl ⟨name a, h.mem_map a, h.encode_eq a⟩, ?_, ?_, ?_, ?_, ?_⟩
  · intro s
    rw [h.decode?_eq, h.decode?_eq]
    rfl
  · intro s _ v hv
    exact hnone _ fun a => ⟨by simp, by simp [hv]⟩
  · intro s hs
    refine hnone _ fun a => ⟨?_, by simp⟩
    intro heq
    cases heq
    exact hs (h.mem_map a)
  · intro s hs v
    refine hnone _ fun a => ⟨by simp, ?_⟩
    intro heq
    cases heq
    exact hs (h.mem_map a)
  · intro fields hlength
    refine hnone _ fun a => ⟨by simp, ?_⟩
    intro heq
    cases heq
    exact hlength rfl

end Named

theorem named_key : Named Key Note.name Note.all :=
  ⟨fun _ => rfl, fun _ => rfl, fun a => by cases a <;> rfl⟩

theorem named_degree : Named Degree degreeName Degree.all :=
  ⟨fun _ => rfl, fun _ => rfl, fun a => by cases a <;> rfl⟩

theorem named_kind : Named LineKind kindName kinds :=
  ⟨fun _ => rfl, fun _ => rfl, fun a => by cases a <;> rfl⟩

/-! ## Fields -/

theorem not_outOfRange_of_count? {n : Int} {k : Nat} (h : count? (.integer n) = some k) :
    ¬ OutOfRange n := by
  obtain ⟨hn, hlt⟩ := count?_eq_some_iff.mp h
  cases hn
  unfold OutOfRange
  omega

/-- A record whose fields are read one by one. -/
theorem ReadsFields.of {α : Type} {decode : Value → Option α} {names counts : List String}
    (hcongr : ∀ fields fields', (∀ name ∈ names, field? fields name = field? fields' name) →
      decode (.object fields) = decode (.object fields'))
    (hnames : ∀ fields a, decode (.object fields) = some a →
      ∀ name ∈ names, ∃ v, field? fields name = some v)
    (hcounts : ∀ fields a, decode (.object fields) = some a →
      ∀ name ∈ counts, ∃ n, (field? fields name).bind count? = some n)
    (hitems : ∀ items a, decode (.array items) = some a →
      items.length = names.length ∧ ∀ n, .integer n ∈ items → ¬ OutOfRange n) :
    ReadsFields decode names counts := by
  refine ⟨?_, ?_, ?_, ?_, ?_, ?_⟩
  · intro before name v after hname
    refine hcongr _ _ fun known hknown => field?_append_cons before after v ?_
    rintro rfl
    exact hname hknown
  · intro fields name hname hmissing
    rw [Option.eq_none_iff_forall_ne_some]
    intro a ha
    obtain ⟨v, hv⟩ := hnames fields a ha name hname
    exact hmissing v ((mem_of_field? hv).mpr rfl)
  · intro fields name hname hrepeated
    rw [Option.eq_none_iff_forall_ne_some]
    intro a ha
    obtain ⟨v, hv⟩ := hnames fields a ha name hname
    have hone : (fields.map Prod.fst).count name = 1 := by
      rw [List.count, List.countP_map, List.countP_eq_length_filter]
      exact congrArg List.length (field?_eq_some_iff.mp hv)
    omega
  · intro fields name hname n hmem hn
    rw [Option.eq_none_iff_forall_ne_some]
    intro a ha
    obtain ⟨k, hk⟩ := hcounts fields a ha name hname
    obtain ⟨v, hv, hcount⟩ := Option.bind_eq_some_iff.mp hk
    rw [← (mem_of_field? hv).mp hmem] at hcount
    exact not_outOfRange_of_count? hcount hn
  · intro items hlength
    rw [Option.eq_none_iff_forall_ne_some]
    intro a ha
    exact hlength (hitems items a ha).1
  · intro items n hmem hn
    rw [Option.eq_none_iff_forall_ne_some]
    intro a ha
    exact (hitems items a ha).2 n hmem hn

/-! ## Reports -/

/-- The counts of a report with the names of their fields. -/
def entries (r : Report) : List (String × Nat) :=
  [("lines", r.lines), ("key_markers", r.keyMarkers), ("chord_lines", r.chordLines),
    ("chords", r.chords)]

/-- The names of the fields of a report. -/
def reportFields : List String := ["lines", "key_markers", "chord_lines", "chords"]

/-- The counts of a report are in range. -/
def StorableReport (r : Report) : Prop := ∀ e ∈ entries r, (e.2 : Int) < countLimit

theorem encodeReport_eq (r : Report) :
    encodeReport r = .object ((entries r).map fun e => (e.1, .integer e.2)) := rfl

theorem map_fst_entries (r : Report) : (entries r).map Prod.fst = reportFields := rfl

theorem nodup_reportFields : reportFields.Nodup := by decide

theorem encodeReport_inj {r q : Report} (h : encodeReport r = encodeReport q) : r = q := by
  obtain ⟨lines, keyMarkers, chordLines, chords⟩ := r
  obtain ⟨lines', keyMarkers', chordLines', chords'⟩ := q
  simp only [encodeReport, Value.object.injEq, List.cons.injEq, Prod.mk.injEq, true_and, and_true,
    Value.integer.injEq, Int.natCast_inj] at h
  obtain ⟨rfl, rfl, rfl, rfl⟩ := h
  rfl

/-- **A report is read from an object exactly if every count is read from its field.** -/
theorem Codec.decodeReport?_object_eq_some_iff {fields : List (String × Value)} {r : Report} :
    decodeReport? (.object fields) = some r ↔
      ∀ e ∈ entries r, (field? fields e.1).bind count? = some e.2 := by
  obtain ⟨lines, keyMarkers, chordLines, chords⟩ := r
  simp only [entries, List.forall_mem_cons, List.not_mem_nil, false_implies, implies_true, and_true]
  constructor
  · intro h
    simp only [decodeReport?, reportOfCounts?, Option.bind_eq_bind, Option.bind_eq_some_iff,
      Option.pure_def, Option.some.injEq, Report.mk.injEq] at h
    obtain ⟨_, h₁, _, h₂, _, h₃, _, h₄, _, k₁, _, k₂, _, k₃, _, k₄, rfl, rfl, rfl, rfl⟩ := h
    simp [h₁, h₂, h₃, h₄, k₁, k₂, k₃, k₄]
  · rintro ⟨h₁, h₂, h₃, h₄⟩
    obtain ⟨_, h₁, k₁⟩ := Option.bind_eq_some_iff.mp h₁
    obtain ⟨_, h₂, k₂⟩ := Option.bind_eq_some_iff.mp h₂
    obtain ⟨_, h₃, k₃⟩ := Option.bind_eq_some_iff.mp h₃
    obtain ⟨_, h₄, k₄⟩ := Option.bind_eq_some_iff.mp h₄
    simp [decodeReport?, reportOfCounts?, h₁, h₂, h₃, h₄, k₁, k₂, k₃, k₄]

/-- A report is read from an array exactly if that holds the counts in order. -/
theorem Codec.decodeReport?_array_eq_some_iff {items : List Value} {r : Report} :
    decodeReport? (.array items) = some r ↔
      items = (entries r).map (fun e => .integer e.2) ∧ StorableReport r := by
  obtain ⟨lines, keyMarkers, chordLines, chords⟩ := r
  have hfour : ∀ a b c d, decodeReport? (.array [a, b, c, d]) = reportOfCounts? a b c d :=
    fun _ _ _ _ => rfl
  simp only [StorableReport, entries, List.forall_mem_cons, List.not_mem_nil, false_implies,
    implies_true, and_true]
  constructor
  · intro h
    rcases items with _ | ⟨a, _ | ⟨b, _ | ⟨c, _ | ⟨d, _ | ⟨e, rest⟩⟩⟩⟩⟩
    case cons.cons.cons.cons.nil =>
      simp only [hfour, reportOfCounts?, Option.bind_eq_bind, Option.bind_eq_some_iff,
        Option.pure_def, Option.some.injEq, Report.mk.injEq, count?_eq_some_iff] at h
      obtain ⟨_, ⟨rfl, h₁⟩, _, ⟨rfl, h₂⟩, _, ⟨rfl, h₃⟩, _, ⟨rfl, h₄⟩, rfl, rfl, rfl, rfl⟩ := h
      exact ⟨rfl, h₁, h₂, h₃, h₄⟩
    all_goals cases h
  · rintro ⟨rfl, h₁, h₂, h₃, h₄⟩
    simp [hfour, reportOfCounts?, count?_of_lt h₁, count?_of_lt h₂, count?_of_lt h₃,
      count?_of_lt h₄]

theorem storable_of_decodeReport? {v : Value} {r : Report} (h : decodeReport? v = some r) :
    StorableReport r := by
  cases v with
  | object fields =>
    intro e he
    obtain ⟨w, -, hw⟩ := Option.bind_eq_some_iff.mp (decodeReport?_object_eq_some_iff.mp h e he)
    exact (count?_eq_some_iff.mp hw).2
  | array items => exact (decodeReport?_array_eq_some_iff.mp h).2
  | _ => cases h

theorem faithful_report : Faithful Report StorableReport := by
  have hback : ∀ r, StorableReport r → decodeReport? (encodeReport r) = some r := by
    intro r hr
    rw [encodeReport_eq, decodeReport?_object_eq_some_iff]
    intro e he
    -- the names of the fields differ, so every count is found under its own
    have hfield : field? ((entries r).map fun e => (e.1, .integer e.2)) e.1 =
        some (.integer e.2) := by
      refine field?_of_mem ?_ (List.mem_map.mpr ⟨e, he, rfl⟩)
      rw [List.map_map]
      exact nodup_reportFields
    rw [hfield, Option.bind_some, count?_of_lt (hr e he)]
  refine ⟨hback, fun a b => encodeReport_inj, ?_⟩
  intro v r h
  have hr := storable_of_decodeReport? h
  exact ⟨hr, hback r hr⟩

theorem readsFields_report :
    ReadsFields (decode? : Value → Option Report) reportFields reportFields := by
  have hcounts : ∀ fields (r : Report), decodeReport? (.object fields) = some r →
      ∀ name ∈ reportFields, ∃ n, (field? fields name).bind count? = some n := by
    intro fields r h name hname
    rw [← map_fst_entries r] at hname
    obtain ⟨e, he, rfl⟩ := List.mem_map.mp hname
    exact ⟨e.2, decodeReport?_object_eq_some_iff.mp h e he⟩
  refine .of ?_ ?_ hcounts ?_
  · intro fields fields' h
    have hnames : ∀ r, ∀ e ∈ entries r, field? fields e.1 = field? fields' e.1 :=
      fun r e he => h e.1 (map_fst_entries r ▸ List.mem_map_of_mem he)
    refine Option.ext fun r => ?_
    show decodeReport? _ = some r ↔ decodeReport? _ = some r
    rw [decodeReport?_object_eq_some_iff, decodeReport?_object_eq_some_iff]
    exact forall₂_congr fun e he => by rw [hnames r e he]
  · intro fields r h name hname
    obtain ⟨n, hn⟩ := hcounts fields r h name hname
    obtain ⟨v, hv, -⟩ := Option.bind_eq_some_iff.mp hn
    exact ⟨v, hv⟩
  · intro items r h
    obtain ⟨rfl, hr⟩ := decodeReport?_array_eq_some_iff.mp h
    refine ⟨rfl, ?_⟩
    intro n hn
    obtain ⟨e, he, heq⟩ := List.mem_map.mp hn
    cases heq
    exact not_outOfRange_of_count? (count?_of_lt (hr e he))

/-! ## Errors -/

/-- The names by which errors are recorded. -/
def causes : List String := ["UnsupportedKey", "KeyNotDetected", "InvalidChord", "InvalidChordAt"]

/-- The names of the fields of a chord and its place. -/
def placeFields : List String := ["line", "chord"]

/-- The line of an error is in range. -/
def StorableError : TranspositionError → Prop
  | .invalidChordAt line _ => (line : Int) < countLimit
  | _ => True

/-- **A chord and its place are read from an object exactly if both are read from their fields.** -/
theorem Codec.placedChord?_object_eq_some_iff {fields : List (String × Value)}
    {e : TranspositionError} :
    placedChord? (.object fields) = some e ↔
      ∃ line chord, (field? fields "line").bind count? = some line ∧
        (field? fields "chord").bind text? = some chord ∧ e = .invalidChordAt line chord := by
  constructor
  · intro h
    simp only [placedChord?, Option.bind_eq_bind, Option.bind_eq_some_iff, Option.pure_def,
      Option.some.injEq] at h
    obtain ⟨_, hl, line, hline, _, hc, chord, hchord, rfl⟩ := h
    exact ⟨line, chord, by simp [hl, hline], by simp [hc, hchord], rfl⟩
  · rintro ⟨line, chord, hline, hchord, rfl⟩
    obtain ⟨_, hl, hline⟩ := Option.bind_eq_some_iff.mp hline
    obtain ⟨_, hc, hchord⟩ := Option.bind_eq_some_iff.mp hchord
    simp [placedChord?, hl, hline, hc, hchord]

example : placedChord? (.object [("chord", .text "H"), ("page", .null), ("line", .integer 3)]) =
    some (.invalidChordAt 3 "H") := by rfl

/-- A chord and its place are read from an array exactly if that holds both in order. -/
theorem Codec.placedChord?_array_eq_some_iff {items : List Value} {e : TranspositionError} :
    placedChord? (.array items) = some e ↔
      ∃ (line : Nat) (chord : String), items = [.integer line, .text chord] ∧
        (line : Int) < countLimit ∧ e = .invalidChordAt line chord := by
  have htwo : ∀ a b, placedChord? (.array [a, b]) =
      (count? a).bind fun line => (text? b).map fun chord => .invalidChordAt line chord := by
    intro a b
    rw [placedChord?]
    cases count? a <;> cases text? b <;> rfl
  constructor
  · intro h
    rcases items with _ | ⟨a, _ | ⟨b, _ | ⟨c, rest⟩⟩⟩
    case cons.cons.nil =>
      rw [htwo] at h
      obtain ⟨line, hline, h⟩ := Option.bind_eq_some_iff.mp h
      obtain ⟨chord, hchord, rfl⟩ := Option.map_eq_some_iff.mp h
      obtain ⟨rfl, hrange⟩ := count?_eq_some_iff.mp hline
      obtain rfl := text?_eq_some_iff.mp hchord
      exact ⟨line, chord, rfl, hrange, rfl⟩
    all_goals cases h
  · rintro ⟨line, chord, rfl, hrange, rfl⟩
    rw [htwo, count?_of_lt hrange, Option.bind_some]
    rfl

theorem storable_of_placedChord? {v : Value} {e : TranspositionError}
    (h : placedChord? v = some e) : StorableError e := by
  cases v with
  | object fields =>
    obtain ⟨line, chord, hline, -, rfl⟩ := placedChord?_object_eq_some_iff.mp h
    obtain ⟨w, -, hw⟩ := Option.bind_eq_some_iff.mp hline
    obtain ⟨-, hrange⟩ := count?_eq_some_iff.mp hw
    exact hrange
  | array items =>
    obtain ⟨line, chord, -, hrange, rfl⟩ := placedChord?_array_eq_some_iff.mp h
    exact hrange
  | _ => cases h

/-- **What an object with one field is read as depends on the name of the field.** -/
theorem Codec.decodeError?_object_eq_some_iff {cause : String} {v : Value}
    {e : TranspositionError} :
    decodeError? (.object [(cause, v)]) = some e ↔
      (cause = "UnsupportedKey" ∧ ∃ text, v = .text text ∧ .unsupportedKey text = e) ∨
      (cause = "KeyNotDetected" ∧ v = .null ∧ .keyNotDetected = e) ∨
      (cause = "InvalidChord" ∧ ∃ chord, v = .text chord ∧ .invalidChord chord = e) ∨
      (cause = "InvalidChordAt" ∧ placedChord? v = some e) := by
  unfold decodeError?
  split
  case h_1 hv => cases hv
  case h_3 hv => exact absurd rfl (hv cause v)
  case h_2 hv =>
    cases hv
    by_cases hkey : cause = "UnsupportedKey"
    · simp [hkey, text?_eq_some_iff]
    by_cases hchord : cause = "InvalidChord"
    · simp [hchord, text?_eq_some_iff]
    by_cases hplaced : cause = "InvalidChordAt"
    · simp [hplaced]
    by_cases hdetected : cause = "KeyNotDetected"
    · cases v <;> simp [hdetected]
    · simp [hkey, hchord, hplaced, hdetected]

/-- An object that is read as an error has one field. -/
theorem Codec.object_of_decodeError? {fields : List (String × Value)} {e : TranspositionError}
    (h : decodeError? (.object fields) = some e) : ∃ cause v, fields = [(cause, v)] := by
  unfold decodeError? at h
  split at h
  case h_1 hv => cases hv
  case h_2 cause v hv =>
    cases hv
    exact ⟨cause, v, rfl⟩
  case h_3 => cases h

theorem storable_of_decodeError? {v : Value} {e : TranspositionError}
    (h : decodeError? v = some e) : StorableError e := by
  cases v with
  | text cause =>
    simp only [decodeError?, Option.ite_none_right_eq_some, Option.some.injEq] at h
    obtain ⟨-, rfl⟩ := h
    trivial
  | object fields =>
    obtain ⟨cause, v, rfl⟩ := object_of_decodeError? h
    obtain ⟨-, text, -, rfl⟩ | ⟨-, -, rfl⟩ | ⟨-, chord, -, rfl⟩ | ⟨-, hplaced⟩ :=
      decodeError?_object_eq_some_iff.mp h
    · trivial
    · trivial
    · trivial
    · exact storable_of_placedChord? hplaced
  | _ => cases h

theorem encodeError_inj {e e' : TranspositionError} (h : encodeError e = encodeError e') :
    e = e' := by
  cases e <;> cases e' <;> simp [encodeError] at h ⊢
  case invalidChordAt.invalidChordAt => exact_mod_cast h
  all_goals exact h

theorem faithful_error : Faithful TranspositionError StorableError := by
  have hback : ∀ e, StorableError e → decodeError? (encodeError e) = some e := by
    intro e he
    cases e with
    | invalidChordAt line chord =>
      refine decodeError?_object_eq_some_iff.mpr (.inr (.inr (.inr ⟨rfl, ?_⟩)))
      refine placedChord?_object_eq_some_iff.mpr ⟨line, chord, ?_, rfl, rfl⟩
      have hline : field? [("line", .integer line), ("chord", .text chord)] "line" =
          some (.integer line) := rfl
      rw [hline, Option.bind_some, count?_of_lt he]
    | _ => rfl
  refine ⟨hback, fun a b => encodeError_inj, ?_⟩
  intro v e h
  have he := storable_of_decodeError? h
  exact ⟨he, hback e he⟩

theorem tagged_error : Tagged TranspositionError causes ["KeyNotDetected"] := by
  refine ⟨?_, ?_, ?_, ?_, ?_, ?_⟩
  · intro e
    cases e with
    | keyNotDetected => exact .inl ⟨_, by simp, rfl⟩
    | unsupportedKey text => exact .inr ⟨_, by simp [causes], by simp, _, rfl⟩
    | invalidChord chord => exact .inr ⟨_, by simp [causes], by simp, _, rfl⟩
    | invalidChordAt line chord => exact .inr ⟨_, by simp [causes], by simp, _, rfl⟩
  · intro name
    refine Option.ext fun e => ?_
    show decodeError? _ = some e ↔ decodeError? _ = some e
    rw [decodeError?_object_eq_some_iff]
    simp [decodeError?, placedChord?]
  · intro name hname v hv
    obtain rfl := List.mem_singleton.mp hname
    rw [Option.eq_none_iff_forall_ne_some]
    intro e he
    have hcause := decodeError?_object_eq_some_iff.mp he
    simp [hv] at hcause
  · intro name hname
    exact if_neg (by simpa using hname)
  · intro name hname v
    rw [Option.eq_none_iff_forall_ne_some]
    intro e he
    refine hname ?_
    obtain ⟨rfl, -⟩ | ⟨rfl, -⟩ | ⟨rfl, -⟩ | ⟨rfl, -⟩ := decodeError?_object_eq_some_iff.mp he
    all_goals simp [causes]
  · intro fields hlength
    rw [Option.eq_none_iff_forall_ne_some]
    intro e he
    obtain ⟨cause, v, rfl⟩ := object_of_decodeError? he
    exact hlength rfl

/-- What the cause named for a chord and its place holds is read as such. -/
theorem decode?_placed (v : Value) :
    (decode? (.object [("InvalidChordAt", v)]) : Option TranspositionError) = placedChord? v := rfl

theorem readsFields_placed :
    ReadsFields (fun v => (decode? (.object [("InvalidChordAt", v)]) : Option TranspositionError))
      placeFields ["line"] := by
  simp only [decode?_placed]
  refine .of ?_ ?_ ?_ ?_
  · intro fields fields' h
    have hline := h "line" (by simp [placeFields])
    have hchord := h "chord" (by simp [placeFields])
    simp only [placedChord?, hline, hchord]
  · intro fields e h name hname
    obtain ⟨line, chord, hline, hchord, -⟩ := placedChord?_object_eq_some_iff.mp h
    obtain ⟨l, hl, -⟩ := Option.bind_eq_some_iff.mp hline
    obtain ⟨c, hc, -⟩ := Option.bind_eq_some_iff.mp hchord
    obtain rfl | rfl : name = "line" ∨ name = "chord" := by simpa [placeFields] using hname
    · exact ⟨l, hl⟩
    · exact ⟨c, hc⟩
  · intro fields e h name hname
    obtain rfl := List.mem_singleton.mp hname
    obtain ⟨line, chord, hline, -, -⟩ := placedChord?_object_eq_some_iff.mp h
    exact ⟨line, hline⟩
  · intro items e h
    obtain ⟨line, chord, rfl, hrange, -⟩ := placedChord?_array_eq_some_iff.mp h
    refine ⟨rfl, fun n hn => ?_⟩
    obtain rfl : n = line := by simpa using hn
    exact not_outOfRange_of_count? (count?_of_lt hrange)

/-! ## All records -/

/-- **The recorded forms of keys, degrees, kinds of lines, reports and errors.** Everything that can
be stored reads back, different values have different forms, and what is read from any form can be
stored and reads back from its own form. A form with an unknown name, with a further field beside
the name, without a field of a record or with a count that is out of range is refused; unknown
fields of a record are passed over. -/
theorem records_faithful :
    (Faithful Key (fun _ => True) ∧ Faithful Degree (fun _ => True) ∧
      Faithful LineKind (fun _ => True) ∧ Faithful Report StorableReport ∧
      Faithful TranspositionError StorableError) ∧
    (Tagged Key ["C", "D", "E", "F", "G", "A", "B"] ["C", "D", "E", "F", "G", "A", "B"] ∧
      Tagged Degree ["I", "II", "III", "IV", "V", "VI", "VII"]
        ["I", "II", "III", "IV", "V", "VI", "VII"] ∧
      Tagged LineKind ["KeyMarker", "Chords", "Text"] ["KeyMarker", "Chords", "Text"] ∧
      Tagged TranspositionError causes ["KeyNotDetected"]) ∧
    ReadsFields (decode? : Value → Option Report) reportFields reportFields ∧
    ReadsFields (fun v => (decode? (.object [("InvalidChordAt", v)]) : Option TranspositionError))
      placeFields ["line"] :=
  ⟨⟨named_key.faithful, named_degree.faithful, named_kind.faithful, faithful_report,
      faithful_error⟩,
    ⟨named_key.tagged, named_degree.tagged, named_kind.tagged, tagged_error⟩,
    readsFields_report, readsFields_placed⟩

end ChordSheet.Record
