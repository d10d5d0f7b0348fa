import ChordSheet.Proofs.LineKinds
import ChordSheet.Sheet

/-!
# Sheets as entries

An *entry* is a line of a sheet that is read in a key: a marker stands for the key itself, a line
of chords for its figures, and text for itself. A sheet that can be transposed has a *reading* in
its source key, and to transpose it is to write the entries in the target key. What was written
is a sheet again whose source key is the target, and it reads as the same entries, save that a
line of chords that no longer shows chords is text from then on.

* `Sheet.transposeLines_eq_ok_iff` : lines are transposed exactly if they read as entries.
* `Rendition.ofLines_eq_ok_iff` : a sheet is transposed exactly if it has a reading.
* `Entry.Reading.write` : a sheet that was transposed has a reading in its new key.
-/

set_option autoImplicit false

namespace ChordSheet

/-! ## Entries -/

/-- A line of a sheet as it is read in a key. -/
inductive Entry where
  | marker
  | chords (fs : List Figure)
  | text (line : String)

namespace Entry

/-- The kind of the line that was read. -/
def kind : Entry → LineKind
  | marker => .keyMarker
  | chords _ => .chords
  | text _ => .text

/-- The number of symbols of an entry. -/
def symbols : Entry → Nat
  | marker => 0
  | chords fs => fs.countP Figure.isSymbol
  | text _ => 0

/-- The line that an entry stands for in a key. -/
def write (k : Key) : Entry → String
  | marker => Line.keyMarker k
  | chords fs => String.ofList (Figure.write k fs)
  | text line => line

/-- What an entry is read as after it was written in a key: chords that do not look like chords
there are text. -/
def settle (k : Key) : Entry → Entry
  | marker => marker
  | chords fs =>
    if Line.kindOf (Figure.write k fs) = .chords then chords fs
    else text (String.ofList (Figure.write k fs))
  | text line => text line

/-- An entry is what a line is read as in a key. -/
inductive Reads (k : Key) : String → Entry → Prop where
  | marker {l : String} : Line.kind l = .keyMarker → Reads k l marker
  | chords {l : String} {fs : List Figure} :
      Line.kind l = .chords → Line.Reads k l.toList fs → Reads k l (chords fs)
  | text {l : String} : Line.kind l = .text → Reads k l (text l)

variable {k : Key} {l : String} {e : Entry}

theorem kind_keyMarker (k : Key) : Line.kind (Line.keyMarker k) = .keyMarker := by
  cases k <;> rfl

theorem detectKey?_keyMarker (k : Key) : Line.detectKey? (Line.keyMarker k).toList = some k := by
  cases k <;> rfl

theorem Reads.kind_eq (h : Reads k l e) : e.kind = Line.kind l := by
  cases h with
  | marker hk => exact hk.symm
  | chords hk _ => exact hk.symm
  | text hk => exact hk.symm

theorem Reads.eq_marker (h : Reads k l e) (hk : Line.kind l = .keyMarker) : e = .marker := by
  have hkind := h.kind_eq
  rw [hk] at hkind
  cases e with
  | marker => rfl
  | chords _ => cases hkind
  | text _ => cases hkind

theorem Reads.exists_chords (h : Reads k l e) (hk : Line.kind l = .chords) :
    ∃ fs, e = .chords fs ∧ Line.Reads k l.toList fs := by
  have hkind := h.kind_eq
  rw [hk] at hkind
  cases h with
  | marker _ => cases hkind
  | chords _ hfs => exact ⟨_, rfl, hfs⟩
  | text _ => cases hkind

theorem Reads.eq_text (h : Reads k l e) (hk : Line.kind l = .text) : e = .text l := by
  have hkind := h.kind_eq
  rw [hk] at hkind
  cases h with
  | marker _ => cases hkind
  | chords _ _ => cases hkind
  | text _ => rfl

/-- A written entry is read as what it has settled to. -/
theorem Reads.write (h : Reads k l e) (j : Key) : Reads j (e.write j) (e.settle j) := by
  cases h with
  | marker _ => exact .marker (kind_keyMarker j)
  | text hk => exact .text hk
  | @chords fs hk hfs =>
    have hkind : Line.kind (String.ofList (Figure.write j fs)) =
        Line.kindOf (Figure.write j fs) := by
      rw [Line.kind, String.toList_ofList]
    rw [settle]
    split
    · rename_i hj
      refine .chords (hkind.trans hj) ?_
      rw [Entry.write, String.toList_ofList]
      exact hfs.write j
    · rename_i hj
      exact .text (hkind.trans (hfs.kindOf_write_eq_text hk hj))

/-- In the key in which it was read, an entry that is no marker is the line itself. -/
theorem Reads.write_self (h : Reads k l e) (hk : Line.kind l ≠ .keyMarker) : e.write k = l := by
  cases h with
  | marker hm => exact absurd hm hk
  | chords _ hfs => rw [Entry.write, ← hfs.eq_write, String.ofList_toList]
  | text _ => rfl

theorem kind_settle_eq_keyMarker_iff (j : Key) (e : Entry) :
    (e.settle j).kind = .keyMarker ↔ e.kind = .keyMarker := by
  cases e with
  | chords fs => rw [settle]; split <;> simp [kind]
  | _ => rfl

theorem kind_of_kind_settle {j : Key} {e : Entry} (h : (e.settle j).kind = .chords) :
    e.kind = .chords := by
  cases e with
  | chords _ => rfl
  | marker => exact h
  | text _ => exact h

theorem symbols_settle_le (j : Key) (e : Entry) : (e.settle j).symbols ≤ e.symbols := by
  cases e with
  | chords fs =>
    rw [settle]
    split
    · exact Nat.le_refl _
    · exact Nat.zero_le _
  | _ => exact Nat.le_refl _

/-- The report on some entries. -/
def report (es : List Entry) : Report := es.foldr (fun e r => r.count e.kind e.symbols) .empty

end Entry

/-! ## Transposing lines -/

namespace Sheet

variable {t : Transposition}

theorem transposeLine_eq_ok_iff {l : String} {m : MovedLine} :
    transposeLine t l = .ok m ↔
      ∃ e, Entry.Reads t.source l e ∧ m = ⟨e.write t.target, e.symbols⟩ := by
  constructor
  · intro h
    unfold transposeLine at h
    split at h
    · rename_i hk
      exact ⟨.marker, .marker hk, (Except.ok.inj h).symm⟩
    · rename_i hk
      obtain ⟨fs, hfs, hm⟩ := Transposition.line_eq_ok_iff.mp h
      exact ⟨.chords fs, .chords hk hfs, hm⟩
    · rename_i hk
      exact ⟨.text l, .text hk, (Except.ok.inj h).symm⟩
  · rintro ⟨e, he, rfl⟩
    unfold transposeLine
    cases he with
    | marker hk => rw [hk]; rfl
    | chords hk hfs => rw [hk]; exact Transposition.line_eq_ok_iff.mpr ⟨_, hfs, rfl⟩
    | text hk => rw [hk]; rfl

/-- **Lines are transposed exactly if they read as entries**, whatever the target. -/
theorem transposeLines_eq_ok_iff {number : Nat} {lines : List String}
    {p : List String × Report} :
    transposeLines t number lines = .ok p ↔
      ∃ es, List.Forall₂ (Entry.Reads t.source) lines es ∧
        p = (es.map (Entry.write t.target), Entry.report es) := by
  induction lines generalizing number p with
  | nil =>
    constructor
    · intro h
      exact ⟨[], .nil, (Except.ok.inj h).symm⟩
    · rintro ⟨es, hes, rfl⟩
      cases hes
      rfl
  | cons l ls ih =>
    constructor
    · intro h
      rw [transposeLines] at h
      cases hl : transposeLine t l with
      | error e => rw [hl] at h; cases h
      | ok m =>
        cases hls : transposeLines t (number + 1) ls with
        | error e => rw [hl, hls] at h; cases h
        | ok q =>
          obtain ⟨e, he, rfl⟩ := transposeLine_eq_ok_iff.mp hl
          obtain ⟨es, hes, rfl⟩ := ih.mp hls
          rw [hl, hls] at h
          refine ⟨e :: es, .cons he hes, ?_⟩
          rw [← Except.ok.inj h, ← he.kind_eq]
          rfl
    · rintro ⟨es, hes, rfl⟩
      cases hes with
      | @cons _ e _ es he hes =>
        have hl : transposeLine t l = .ok ⟨e.write t.target, e.symbols⟩ :=
          transposeLine_eq_ok_iff.mpr ⟨e, he, rfl⟩
        have hls : transposeLines t (number + 1) ls =
            .ok (es.map (Entry.write t.target), Entry.report es) :=
          ih.mpr ⟨es, hes, rfl⟩
        rw [transposeLines, hl, hls, ← he.kind_eq]
        rfl

end Sheet

/-! ## Readings of a sheet -/

theorem exists_getElem?_of_forall₂ {α β : Type} {R : α → β → Prop} {as : List α} {bs : List β}
    (h : List.Forall₂ R as bs) {i : Nat} {a : α} (ha : as[i]? = some a) :
    ∃ b, bs[i]? = some b ∧ R a b := by
  obtain ⟨hlength, hget⟩ := List.forall₂_iff_get.mp h
  obtain ⟨hi, rfl⟩ := List.getElem?_eq_some_iff.mp ha
  have hi' : i < bs.length := by omega
  exact ⟨bs[i], List.getElem?_eq_getElem hi', hget i hi hi'⟩

/-- Some entries are the lines of a sheet as they are read in its source key. -/
structure Entry.Reading (k : Key) (lines : List String) (es : List Entry) : Prop where
  source : sourceKey? lines = some k
  reads : List.Forall₂ (Entry.Reads k) lines es

theorem Rendition.ofLines_eq_ok_iff {lines : List String} {target : Key} {r : Rendition} :
    Rendition.ofLines lines target = .ok r ↔
      ∃ es, Entry.Reading r.source lines es ∧ r.lines = es.map (Entry.write target) ∧
        r.report = Entry.report es := by
  constructor
  · intro h
    rw [Rendition.ofLines] at h
    cases hs : Sheet.ofLines lines with
    | error e => rw [hs] at h; cases h
    | ok sheet =>
      rw [hs] at h
      have hlines : sheet.lines = lines := Sheet.ofLines_eq_ok_iff.mp hs
      cases ht : sheet.transpose target with
      | error e => simp only [bind, Except.bind, ht] at h; cases h
      | ok p =>
        simp only [bind, Except.bind, ht, pure, Except.pure, Except.ok.injEq] at h
        obtain ⟨es, hes, rfl⟩ := Sheet.transposeLines_eq_ok_iff.mp ht
        subst hlines h
        exact ⟨es, ⟨sheet.detected, hes⟩, rfl, rfl⟩
  · rintro ⟨es, ⟨hsource, hreads⟩, hlines, hreport⟩
    have hs : Sheet.ofLines lines = .ok ⟨lines, r.source, hsource⟩ :=
      Sheet.ofLines_eq_ok_iff.mpr rfl
    have ht : Sheet.transpose ⟨lines, r.source, hsource⟩ target = .ok (r.lines, r.report) :=
      Sheet.transposeLines_eq_ok_iff.mpr ⟨es, hreads, by rw [hlines, hreport]⟩
    rw [Rendition.ofLines, hs]
    simp only [bind, Except.bind, ht, pure, Except.pure]

/-- A sheet whose markers all are markers of one key has that source key. -/
theorem sourceKey?_eq_some {k : Key} {lines : List String}
    (hall : ∀ l ∈ lines, Line.kind l = .keyMarker → l = Line.keyMarker k)
    (hex : ∃ l ∈ lines, Line.kind l = .keyMarker) : sourceKey? lines = some k := by
  induction lines with
  | nil => simp at hex
  | cons l ls ih =>
    rw [sourceKey?, List.findSome?_cons]
    by_cases hl : Line.kind l = .keyMarker
    · rw [hall l List.mem_cons_self hl, Entry.detectKey?_keyMarker]
    · have hnone : Line.detectKey? l.toList = none := by
        apply Line.detectKey?_eq_none_of_not_mentionsKey
        rw [← Bool.not_eq_true, ← Line.kindOf_eq_keyMarker_iff]
        exact hl
      rw [hnone]
      apply ih
      · exact fun m hm => hall m (List.mem_cons_of_mem _ hm)
      · obtain ⟨m, hm, hk⟩ := hex
        rcases List.mem_cons.mp hm with rfl | hm
        · exact absurd hk hl
        · exact ⟨m, hm, hk⟩

/-- A sheet with a source key has a marker. -/
theorem exists_marker_of_sourceKey? {k : Key} {lines : List String}
    (h : sourceKey? lines = some k) : ∃ l ∈ lines, Line.kind l = .keyMarker := by
  obtain ⟨l, hl, hk⟩ := List.exists_of_findSome?_eq_some h
  refine ⟨l, hl, Line.kindOf_eq_keyMarker_iff.mpr ?_⟩
  cases hm : Line.mentionsKey l.toList with
  | true => rfl
  | false =>
    rw [Line.detectKey?_eq_none_of_not_mentionsKey hm] at hk
    cases hk

namespace Entry

variable {k : Key} {lines : List String} {es : List Entry} {i : Nat}

theorem Reading.exists_entry (h : Reading k lines es) {l : String} (hl : lines[i]? = some l) :
    ∃ e, es[i]? = some e ∧ Reads k l e :=
  exists_getElem?_of_forall₂ h.reads hl

theorem Reading.exists_line (h : Reading k lines es) {e : Entry} (he : es[i]? = some e) :
    ∃ l, lines[i]? = some l ∧ Reads k l e :=
  exists_getElem?_of_forall₂ h.reads.flip he

theorem forall₂_reads_write (h : List.Forall₂ (Reads k) lines es) (j : Key) :
    List.Forall₂ (Reads j) (es.map (write j)) (es.map (settle j)) := by
  induction h with
  | nil => exact .nil
  | cons he _ ih => exact .cons (he.write j) ih

/-- **A sheet that was transposed has a reading in its new key.** -/
theorem Reading.write (h : Reading k lines es) (j : Key) :
    Reading j (es.map (Entry.write j)) (es.map (settle j)) := by
  refine ⟨sourceKey?_eq_some ?_ ?_, forall₂_reads_write h.reads j⟩
  · intro m hm hk
    obtain ⟨e, he, rfl⟩ := List.mem_map.mp hm
    obtain ⟨i, hi⟩ := List.mem_iff_getElem?.mp he
    obtain ⟨l, _, hr⟩ := h.exists_line hi
    rw [← (hr.write j).kind_eq, kind_settle_eq_keyMarker_iff, hr.kind_eq] at hk
    rw [hr.eq_marker hk]
    rfl
  · obtain ⟨l, hl, hk⟩ := exists_marker_of_sourceKey? h.source
    obtain ⟨i, hi⟩ := List.mem_iff_getElem?.mp hl
    obtain ⟨e, he, hr⟩ := h.exists_entry hi
    refine ⟨e.write j, List.mem_map_of_mem (List.mem_of_getElem? he), ?_⟩
    rw [← (hr.write j).kind_eq, kind_settle_eq_keyMarker_iff, hr.kind_eq, hk]

end Entry

end ChordSheet
