import ChordSheet.Proofs.Entries

/-!
# Transposing again

What was transposed can be transposed again, any number of times. Two steps come to the same as
one, except on lines of chords whose sharp signs were all that made them look like chords: such a
line may turn into text on the way, and then it stays in the key in which it was written last.

* `Entry.Reading.write_settle_eq_iff` : when two steps come to the same as one.
* `Rendition.process_process` : the same for sheets as they are processed.
* `Entry.Reads.follows`, `Entry.report_settle_follows` : what one step keeps.
* `Rendition.chain_of_reading` : what a whole chain keeps.
* `Rendition.chain_follows` : a chain whose first step succeeds is safe to its end.
-/

set_option autoImplicit false

namespace ChordSheet

/-! ## Two steps -/

namespace Entry

variable {k : Key} {l : String} {e : Entry} {lines : List String} {es : List Entry}

/-- An entry that was written twice is what it is when written once, unless it was a line of
chords that stopped showing chords on the way and differs from what it should become. -/
theorem Reads.write_settle_eq_iff (h : Reads k l e) (a b : Key) :
    (e.settle a).write b = e.write b ↔
      (Line.kind l = .chords → e.write a = e.write b ∨ Line.ShowsChords (e.write a).toList) := by
  cases h with
  | marker hk => simp [settle, hk]
  | text hk => simp [settle, hk]
  | @chords fs hk hfs =>
    have hshows := hfs.kindOf_write_eq_chords_iff hk a
    have htoList : (Entry.write a (.chords fs)).toList = Figure.write a fs := by
      rw [Entry.write, String.toList_ofList]
    rw [htoList, ← hshows, settle]
    split
    · rename_i hchords
      exact iff_of_true rfl fun _ => .inr hchords
    · rename_i hchords
      rw [or_iff_left hchords]
      exact ⟨fun heq _ => heq, fun heq => heq hk⟩

/-- A line of chords with a slash, or with blanks and a letter, shows chords in every key. -/
theorem Reads.showsChords_write (h : Reads k l e) (hk : Line.kind l = .chords)
    (hs : '/' ∈ l.toList ∨ Line.Spaced l.toList) (a : Key) :
    Line.ShowsChords (e.write a).toList := by
  obtain ⟨fs, rfl, hfs⟩ := h.exists_chords hk
  rw [Entry.write, String.toList_ofList]
  exact hfs.showsChords_write a hs

theorem map_write_settle_eq_iff (es : List Entry) (a b : Key) :
    (es.map (settle a)).map (Entry.write b) = es.map (Entry.write b) ↔
      ∀ e ∈ es, (e.settle a).write b = e.write b := by
  rw [List.map_map, List.map_inj_left]
  rfl

/-- Two steps come to the same as one exactly if each line of chords became what it becomes in
the end, or shows chords after the first step. -/
theorem Reading.write_settle_eq_iff (h : Reading k lines es) (a b : Key) :
    (es.map (settle a)).map (Entry.write b) = es.map (Entry.write b) ↔
      ∀ (i : Nat) (l m d : String), lines[i]? = some l → (es.map (Entry.write a))[i]? = some m →
        (es.map (Entry.write b))[i]? = some d → Line.kind l = .chords →
          m = d ∨ Line.ShowsChords m.toList := by
  rw [map_write_settle_eq_iff]
  constructor
  · intro heq i l m d hl hm hd hk
    obtain ⟨e, he, hr⟩ := h.exists_entry hl
    rw [List.getElem?_map, he, Option.map_some, Option.some.injEq] at hm hd
    subst hm hd
    exact (hr.write_settle_eq_iff a b).mp (heq e (List.mem_of_getElem? he)) hk
  · intro hall e he
    obtain ⟨i, hi⟩ := List.mem_iff_getElem?.mp he
    obtain ⟨l, hl, hr⟩ := h.exists_line hi
    rw [hr.write_settle_eq_iff a b]
    intro hk
    have hm : (es.map (Entry.write a))[i]? = some (e.write a) := by simp [hi]
    have hd : (es.map (Entry.write b))[i]? = some (e.write b) := by simp [hi]
    exact hall i l _ _ hl hm hd hk

/-- A step and the step back come to the same as writing the sheet in its own key exactly if they
restore every line that is no marker. -/
theorem Reading.write_settle_eq_iff_restores (h : Reading k lines es) (a : Key) :
    (es.map (settle a)).map (Entry.write k) = es.map (Entry.write k) ↔
      ∀ (i : Nat) (l : String), lines[i]? = some l → Line.kind l ≠ .keyMarker →
        ((es.map (settle a)).map (Entry.write k))[i]? = some l := by
  rw [map_write_settle_eq_iff]
  constructor
  · intro heq i l hl hm
    obtain ⟨e, he, hr⟩ := h.exists_entry hl
    have hself := heq e (List.mem_of_getElem? he)
    rw [hr.write_self hm] at hself
    simp [he, hself]
  · intro hall e he
    obtain ⟨i, hi⟩ := List.mem_iff_getElem?.mp he
    obtain ⟨l, hl, hr⟩ := h.exists_line hi
    by_cases hm : Line.kind l = .keyMarker
    · rw [hr.eq_marker hm]
      rfl
    · have hrestored := hall i l hl hm
      simp only [List.getElem?_map, hi, Option.map_some, Option.some.injEq] at hrestored
      rw [hrestored, hr.write_self hm]

end Entry

namespace Rendition

open Entry

theorem process_eq_ok_iff {lines moved : List String} {target : Key} :
    process lines target = .ok moved ↔
      ∃ k es, Reading k lines es ∧ moved = es.map (Entry.write target) := by
  rw [process]
  constructor
  · intro h
    cases hr : ofLines lines target with
    | error e => rw [hr] at h; cases h
    | ok r =>
      rw [hr] at h
      obtain ⟨es, hes, hlines, _⟩ := ofLines_eq_ok_iff.mp hr
      exact ⟨r.source, es, hes, (Except.ok.inj h).symm.trans hlines⟩
  · rintro ⟨k, es, hes, rfl⟩
    have hr : ofLines lines target = .ok ⟨k, es.map (Entry.write target), Entry.report es⟩ :=
      ofLines_eq_ok_iff.mpr ⟨es, hes, rfl, rfl⟩
    rw [hr]
    rfl

/-- **When two steps come to the same as one.** After a first step to `a`, a second step to `b`
succeeds, and so does one step to `b`. Both give the same lines exactly if each line of chords of
the sheet became what it becomes in `b`, or shows chords after the first step; with a slash, or
with blanks and a letter, it always does. If `b` is the source key, the two steps give the same
exactly if they restore every line that is no marker. -/
theorem process_process {lines once : List String} {a b : Key}
    (h : process lines a = .ok once) :
    ∃ twice direct, process once b = .ok twice ∧ process lines b = .ok direct ∧
      (twice = direct ↔ ∀ (i : Nat) (l m d : String), lines[i]? = some l → once[i]? = some m →
        direct[i]? = some d → Line.kind l = .chords → m = d ∨ Line.ShowsChords m.toList) ∧
      (∀ (i : Nat) (l m : String), lines[i]? = some l → once[i]? = some m →
        Line.kind l = .chords → '/' ∈ l.toList ∨ Line.Spaced l.toList →
          Line.ShowsChords m.toList) ∧
      (sourceKey? lines = some b → (twice = direct ↔
        ∀ (i : Nat) (l : String), lines[i]? = some l → Line.kind l ≠ .keyMarker →
          twice[i]? = some l)) := by
  obtain ⟨k, es, hes, rfl⟩ := process_eq_ok_iff.mp h
  have hdirect : process lines b = .ok (es.map (Entry.write b)) :=
    process_eq_ok_iff.mpr ⟨k, es, hes, rfl⟩
  have htwice : process (es.map (Entry.write a)) b =
      .ok ((es.map (settle a)).map (Entry.write b)) :=
    process_eq_ok_iff.mpr ⟨a, es.map (settle a), hes.write a, rfl⟩
  refine ⟨_, _, htwice, hdirect, hes.write_settle_eq_iff a b, ?_, ?_⟩
  · intro i l m hl hm hk hs
    obtain ⟨e, he, hr⟩ := hes.exists_entry hl
    rw [List.getElem?_map, he, Option.map_some, Option.some.injEq] at hm
    subst hm
    exact hr.showsChords_write hk hs a
  · intro hsource
    have hk : k = b := Option.some.inj (hes.source.symm.trans hsource)
    subst hk
    exact hes.write_settle_eq_iff_restores a

/-- The lone chord `F#m` looks like chords in its own key only, so two steps do not restore it. -/
theorem process_process_lone_chord :
    process ["key: D", "F#m"] .C = .ok ["C key", "Em"] ∧
      ∃ twice direct, process ["C key", "Em"] .D = .ok twice ∧
        process ["key: D", "F#m"] .D = .ok direct ∧ twice ≠ direct := by
  have h : process ["key: D", "F#m"] .C = .ok ["C key", "Em"] := by decide +kernel
  have hd : process ["key: D", "F#m"] .D = .ok ["D key", "F#m"] := by decide +kernel
  obtain ⟨twice, direct, htwice, hdirect, hiff, _⟩ := process_process (b := .D) h
  refine ⟨h, twice, direct, htwice, hdirect, ?_⟩
  rw [hd, Except.ok.injEq] at hdirect
  subst hdirect
  intro heq
  have hshows := hiff.mp heq 1 "F#m" "Em" "F#m" rfl rfl rfl (by decide)
  revert hshows
  unfold Line.ShowsChords Line.Spaced
  decide

end Rendition

/-! ## Chains -/

/-- How a line of a sheet stands to the same line of an earlier sheet in a chain. -/
structure Line.Follows (before after : String) : Prop where
  keyMarker_iff : Line.kind after = .keyMarker ↔ Line.kind before = .keyMarker
  chords : Line.kind after = .chords → Line.kind before = .chords
  text : Line.kind before = .text → after = before

/-- How the report on a sheet stands to that on an earlier sheet in a chain. -/
structure Report.Follows (before after : Report) : Prop where
  keyMarkers : after.keyMarkers = before.keyMarkers
  chordLines : after.chordLines ≤ before.chordLines
  chords : after.chords ≤ before.chords

theorem Line.Follows.trans {l m n : String} (h : Line.Follows l m) (h' : Line.Follows m n) :
    Line.Follows l n := by
  refine ⟨h'.keyMarker_iff.trans h.keyMarker_iff, fun hn => h.chords (h'.chords hn), ?_⟩
  intro hl
  have hm : m = l := h.text hl
  rw [h'.text (by rw [hm, hl]), hm]

theorem Line.forall₂_follows_trans {as bs cs : List String}
    (h : List.Forall₂ Line.Follows as bs) (h' : List.Forall₂ Line.Follows bs cs) :
    List.Forall₂ Line.Follows as cs := by
  induction h generalizing cs with
  | nil => exact h'
  | cons hab _ ih =>
    cases h' with
    | cons hbc h' => exact .cons (hab.trans hbc) (ih h')

theorem Report.Follows.trans {p q r : Report} (h : p.Follows q) (h' : q.Follows r) :
    p.Follows r :=
  ⟨h'.keyMarkers.trans h.keyMarkers, h'.chordLines.trans h.chordLines, h'.chords.trans h.chords⟩

namespace Entry

variable {k : Key} {l : String} {e : Entry} {lines : List String} {es : List Entry}

/-- **One step of a chain.** A written entry follows the line that it was read from. -/
theorem Reads.follows (h : Reads k l e) (j : Key) : Line.Follows l (e.write j) := by
  have hkind := (h.write j).kind_eq
  refine ⟨?_, ?_, ?_⟩
  · rw [← hkind, kind_settle_eq_keyMarker_iff, h.kind_eq]
  · intro hc
    rw [← hkind] at hc
    rw [← h.kind_eq]
    exact kind_of_kind_settle hc
  · intro ht
    rw [h.eq_text ht]
    rfl

theorem Reading.follows (h : Reading k lines es) (j : Key) :
    List.Forall₂ Line.Follows lines (es.map (Entry.write j)) := by
  rw [List.forall₂_map_right_iff]
  exact h.reads.imp fun l e he => he.follows j

/-- Entries that have settled give a report that follows the one before. -/
theorem report_settle_follows (j : Key) (es : List Entry) :
    (report es).Follows (report (es.map (settle j))) := by
  induction es with
  | nil => exact ⟨rfl, Nat.le_refl _, Nat.le_refl _⟩
  | cons e es ih =>
    obtain ⟨hmarkers, hlines, hchords⟩ := ih
    have hsymbols := symbols_settle_le j e
    have hmarker := kind_settle_eq_keyMarker_iff j e
    have hkind : (e.settle j).kind = .chords → e.kind = .chords := kind_of_kind_settle
    refine ⟨?_, ?_, ?_⟩
    · show (report (es.map (settle j))).keyMarkers + _ = (report es).keyMarkers + _
      rw [hmarkers]
      simp only [hmarker]
    · show (report (es.map (settle j))).chordLines + _ ≤ (report es).chordLines + _
      by_cases hc : (e.settle j).kind = .chords
      · rw [if_pos hc, if_pos (hkind hc)]
        omega
      · rw [if_neg hc]
        omega
    · show (report (es.map (settle j))).chords + _ ≤ (report es).chords + _
      omega

end Entry

namespace Rendition

open Entry

instance : IsTrans (List String) (List.Forall₂ Line.Follows) :=
  ⟨fun _ _ _ => Line.forall₂_follows_trans⟩

instance : IsTrans Report Report.Follows := ⟨fun _ _ _ => Report.Follows.trans⟩

theorem chain_cons {lines : List String} {key : Key} {keys : List Key} {r : Rendition}
    (h : ofLines lines key = .ok r) :
    chain lines ((key :: keys).map Note.name) = .ok r :: chain r.lines (keys.map Note.name) := by
  have hparse : (Key.parse key.name >>= ofLines lines) = .ok r := by
    rw [Key.parse_letter]
    exact h
  rw [List.map_cons, chain, hparse]

/-- **What a whole chain keeps**, from a sheet with a reading on: no step fails, each reads in the
key that the step before wrote in, and what came out follows all that came before. -/
theorem chain_of_reading (keys : List Key) {k : Key} {lines : List String} {es : List Entry}
    (h : Reading k lines es) :
    ∃ rs : List Rendition, chain lines (keys.map Note.name) = rs.map .ok ∧
      rs.map Rendition.source = (k :: keys).dropLast ∧
      (lines :: rs.map Rendition.lines).Pairwise (List.Forall₂ Line.Follows) ∧
      (Entry.report es :: rs.map Rendition.report).Pairwise Report.Follows := by
  induction keys generalizing k lines es with
  | nil => exact ⟨[], rfl, rfl, List.pairwise_singleton _ _, List.pairwise_singleton _ _⟩
  | cons key keys ih =>
    obtain ⟨rs, hchain, hsource, hlines, hreport⟩ := ih (h.write key)
    have hr : ofLines lines key = .ok ⟨k, es.map (Entry.write key), Entry.report es⟩ :=
      ofLines_eq_ok_iff.mpr ⟨es, h, rfl, rfl⟩
    refine ⟨⟨k, es.map (Entry.write key), Entry.report es⟩ :: rs, ?_, ?_, ?_, ?_⟩
    · rw [chain_cons hr, hchain]
      rfl
    · rw [List.map_cons, hsource]
      rfl
    · exact hlines.cons_cons_of_trans (h.follows key)
    · -- the report of the step is that of the entries it read, and the later ones follow it
      have hstep := hreport.cons_cons_of_trans (report_settle_follows key es)
      have hlater : (Entry.report es :: rs.map Rendition.report).Pairwise Report.Follows :=
        hstep.sublist (List.Sublist.cons_cons _ (List.sublist_cons_self _ _))
      have hself : (Entry.report es).Follows (Entry.report es) :=
        ⟨rfl, Nat.le_refl _, Nat.le_refl _⟩
      exact hlater.cons_cons_of_trans hself

/-- **Chains are safe.** If the first step of a chain succeeds, so do all later ones, and each
finds the key that the step before wrote in as its source key. Of any two sheets of the chain, the
later one has as many lines, the same markers, no lines of chords at new places, and every text
of the earlier one; and the reports count the same markers and no more chords. -/
theorem chain_follows {lines : List String} {first : Key} {r : Rendition} (rest : List Key)
    (h : ofLines lines first = .ok r) :
    ∃ rs : List Rendition, chain lines ((first :: rest).map Note.name) = rs.map .ok ∧
      rs.map Rendition.source = r.source :: (first :: rest).dropLast ∧
      (lines :: rs.map Rendition.lines).Pairwise (List.Forall₂ Line.Follows) ∧
      (rs.map Rendition.report).Pairwise Report.Follows := by
  obtain ⟨es, hes, _, _⟩ := ofLines_eq_ok_iff.mp h
  obtain ⟨rs, hchain, hsource, hlines, hreport⟩ := chain_of_reading (first :: rest) hes
  exact ⟨rs, hchain, hsource, hlines, hreport.tail⟩

/-- A chain in which a line of chords turns into text at its first step. -/
theorem chain_follows_lone_chord :
    ofLines ["key: D", "F#m"] .C = .ok ⟨.D, ["C key", "Em"], ⟨2, 1, 1, 1⟩⟩ ∧
      ∃ rs : List Rendition,
        chain ["key: D", "F#m"] (([.C, .D, .A] : List Key).map Note.name) = rs.map .ok ∧
        rs.map Rendition.source = [.D, .C, .D] ∧
        (["key: D", "F#m"] :: rs.map Rendition.lines).Pairwise (List.Forall₂ Line.Follows) ∧
        (rs.map Rendition.report).Pairwise Report.Follows := by
  have h : ofLines ["key: D", "F#m"] .C = .ok ⟨.D, ["C key", "Em"], ⟨2, 1, 1, 1⟩⟩ := by
    decide +kernel
  exact ⟨h, chain_follows [.D, .A] h⟩

end Rendition

end ChordSheet
