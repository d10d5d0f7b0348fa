import Mathlib.Data.List.Chain
import ChordSheet.Line.Run

/-!
# The runs of a line are its only partition

A *partition* of a line is a list of runs that make up the line, where no run is empty, each holds
characters of its own kind only, and no two neighbours are of one kind. The runs of a line are a
partition, and no other list of runs is one. It follows that the words among the runs are the
maximal words of the line, each of which ends where a blank or the line does.

* `Line.runs_eq_iff` : the runs of a line are its only partition.
* `Line.WordAt.runs_eq` : a maximal word of a line is a word among its runs, at its place.
-/

set_option autoImplicit false

namespace ChordSheet

@[simp]
theorem RunKind.ofChar_eq_blank_iff {c : Char} :
    RunKind.ofChar c = .blank ↔ Text.isBlank c = true := by
  unfold RunKind.ofChar
  split <;> simp_all

@[simp]
theorem RunKind.ofChar_eq_word_iff {c : Char} :
    RunKind.ofChar c = .word ↔ Text.isBlank c = false := by
  unfold RunKind.ofChar
  split <;> simp_all

theorem RunKind.isBlank_of_ofChar_ne_word {c : Char} (h : RunKind.ofChar c ≠ .word) :
    Text.isBlank c = true := by
  rw [Ne, ofChar_eq_word_iff, Bool.not_eq_false] at h
  exact h

theorem exists_mem_of_map_eq {α β γ : Type} {f : α → γ} {g : β → γ} {a : Option α} {b : Option β}
    (h : a.map f = b.map g) {x : α} (hx : x ∈ a) : ∃ y ∈ b, g y = f x := by
  rw [Option.mem_def.mp hx, Option.map_some, eq_comm, Option.map_eq_some_iff] at h
  exact h

/-! ## Partitions -/

namespace Run

/-- A run that is not empty and holds characters of its own kind only. -/
structure Solid (r : Run) : Prop where
  ne_nil : r.text ≠ []
  ofChar_eq : ∀ c ∈ r.text, RunKind.ofChar c = r.kind

/-- Solid runs of which no two neighbours are of one kind. -/
structure Partition (rs : List Run) : Prop where
  solid : ∀ r ∈ rs, r.Solid
  alternate : rs.IsChain fun r q => r.kind ≠ q.kind

theorem Solid.isBlank_eq_true {r : Run} (h : r.Solid) (hk : r.kind = .blank) :
    ∀ c ∈ r.text, Text.isBlank c = true :=
  fun c hc => RunKind.ofChar_eq_blank_iff.mp ((h.ofChar_eq c hc).trans hk)

theorem Solid.isBlank_eq_false {r : Run} (h : r.Solid) (hk : r.kind = .word) :
    ∀ c ∈ r.text, Text.isBlank c = false :=
  fun c hc => RunKind.ofChar_eq_word_iff.mp ((h.ofChar_eq c hc).trans hk)

theorem Partition.nil : Partition [] := ⟨by simp, List.isChain_nil⟩

theorem partition_cons_iff {r : Run} {rs : List Run} :
    Partition (r :: rs) ↔ r.Solid ∧ (∀ q ∈ rs.head?, r.kind ≠ q.kind) ∧ Partition rs := by
  constructor
  · rintro ⟨hs, ha⟩
    obtain ⟨hhead, htail⟩ := List.isChain_cons.mp ha
    exact ⟨hs r List.mem_cons_self, hhead, fun q hq => hs q (List.mem_cons_of_mem _ hq), htail⟩
  · rintro ⟨hr, hhead, hs, ha⟩
    refine ⟨?_, List.isChain_cons.mpr ⟨hhead, ha⟩⟩
    intro q hq
    rcases List.mem_cons.mp hq with rfl | hq
    · exact hr
    · exact hs q hq

theorem partition_append_iff {rs qs : List Run} :
    Partition (rs ++ qs) ↔
      Partition rs ∧ Partition qs ∧ ∀ r ∈ rs.getLast?, ∀ q ∈ qs.head?, r.kind ≠ q.kind := by
  constructor
  · rintro ⟨hs, ha⟩
    obtain ⟨hrs, hqs, hmid⟩ := List.isChain_append.mp ha
    exact ⟨⟨fun r hr => hs r (List.mem_append_left _ hr), hrs⟩,
      ⟨fun q hq => hs q (List.mem_append_right _ hq), hqs⟩, hmid⟩
  · rintro ⟨⟨hs, ha⟩, ⟨hs', ha'⟩, hmid⟩
    refine ⟨?_, List.isChain_append.mpr ⟨ha, ha', hmid⟩⟩
    intro r hr
    rcases List.mem_append.mp hr with hr | hr
    · exact hs r hr
    · exact hs' r hr

@[simp]
theorem flatten_cons (r : Run) (rs : List Run) : flatten (r :: rs) = r.text ++ flatten rs := rfl

@[simp]
theorem flatten_append (rs qs : List Run) : flatten (rs ++ qs) = flatten rs ++ flatten qs :=
  List.flatMap_append

/-- The kind of the first character is that of the first run. -/
theorem Partition.head?_flatten {rs : List Run} (h : Partition rs) :
    (flatten rs).head?.map RunKind.ofChar = rs.head?.map Run.kind := by
  cases rs with
  | nil => rfl
  | cons r rs =>
    have hr := h.solid r List.mem_cons_self
    obtain ⟨c, cs, htext⟩ := List.exists_cons_of_ne_nil hr.ne_nil
    have hc := hr.ofChar_eq c (by simp [htext])
    simp [htext, hc]

/-- A word among the runs ends where a blank or the line does. -/
theorem Partition.isBlank_head?_flatten {r : Run} {rs : List Run} (h : Partition (r :: rs))
    (hk : r.kind = .word) : ∀ c ∈ (flatten rs).head?, Text.isBlank c = true := by
  obtain ⟨_, hhead, hrs⟩ := partition_cons_iff.mp h
  intro c hc
  -- the next run is of the other kind
  obtain ⟨q, hq, hqk⟩ := exists_mem_of_map_eq hrs.head?_flatten hc
  have hne := hhead q hq
  rw [hk, hqk] at hne
  exact RunKind.isBlank_of_ofChar_ne_word hne.symm

/-- The kind of the last character is that of the last run. -/
theorem Partition.getLast?_flatten {rs : List Run} (h : Partition rs) :
    (flatten rs).getLast?.map RunKind.ofChar = rs.getLast?.map Run.kind := by
  rcases List.eq_nil_or_concat rs with rfl | ⟨qs, r, hrs⟩
  · rfl
  · rw [List.concat_eq_append] at hrs
    subst hrs
    have hr := h.solid r (by simp)
    have hlast : r.text.getLast? = some (r.text.getLast hr.ne_nil) :=
      List.getLast?_eq_some_getLast hr.ne_nil
    have hc := hr.ofChar_eq _ (List.getLast_mem hr.ne_nil)
    simp [flatten, hlast, hc]

end Run

/-! ## The runs of a line -/

namespace Line

open Run

theorem partition_runs (s : List Char) : Partition (runs s) := by
  refine ⟨fun r hr => ⟨(forall_mem_runs hr).1, (forall_mem_runs hr).2⟩, ?_⟩
  induction s with
  | nil => exact List.isChain_nil
  | cons c cs ih =>
    rw [runs]
    cases hrs : runs cs with
    | nil => exact List.isChain_singleton _
    | cons r rs =>
      rw [hrs] at ih
      simp only [push]
      split
      · -- the new character joins the first run, whose kind stays
        rw [List.isChain_cons] at ih ⊢
        exact ih
      · rename_i hk
        rw [List.isChain_cons]
        refine ⟨?_, ih⟩
        intro q hq
        simp only [List.head?_cons, Option.mem_some_iff] at hq
        subst hq
        exact fun e => hk e.symm

theorem runs_append_of_solid {r : Run} {s : List Char} (hr : r.Solid)
    (h : ∀ q ∈ (runs s).head?, r.kind ≠ q.kind) : runs (r.text ++ s) = r :: runs s := by
  obtain ⟨kind, text⟩ := r
  obtain ⟨hne, hkind⟩ := hr
  induction text with
  | nil => exact absurd rfl hne
  | cons c cs ih =>
    have hc : RunKind.ofChar c = kind := hkind c List.mem_cons_self
    cases cs with
    | nil =>
      rw [List.cons_append, List.nil_append, runs]
      cases hs : runs s with
      | nil => rw [push, hc]
      | cons q qs =>
        have hq : kind ≠ q.kind := h q (by simp [hs])
        rw [push, if_neg fun e => hq (hc.symm.trans e.symm), hc]
    | cons d ds =>
      have hcs : ∀ x ∈ d :: ds, RunKind.ofChar x = kind :=
        fun x hx => hkind x (List.mem_cons_of_mem _ hx)
      rw [List.cons_append, runs, ih h (by simp) hcs, push, if_pos hc.symm]

theorem runs_flatten {rs : List Run} (h : Partition rs) : runs (flatten rs) = rs := by
  induction rs with
  | nil => rfl
  | cons r rs ih =>
    obtain ⟨hr, hhead, hrs⟩ := partition_cons_iff.mp h
    have hruns := ih hrs
    rw [flatten_cons, runs_append_of_solid hr (by rw [hruns]; exact hhead), hruns]

/-- **The runs of a line are its only partition.** -/
theorem runs_eq_iff {s : List Char} {rs : List Run} :
    runs s = rs ↔ flatten rs = s ∧ Partition rs := by
  constructor
  · rintro rfl
    exact ⟨text_runs s, partition_runs s⟩
  · rintro ⟨rfl, h⟩
    exact runs_flatten h

/-! ## Maximal words -/

/-- A maximal run of characters that are no blanks, with the text before and after it. -/
structure WordAt (s before word after : List Char) : Prop where
  eq_append : s = before ++ (word ++ after)
  ne_nil : word ≠ []
  not_blank : ∀ c ∈ word, Text.isBlank c = false
  start : ∀ c ∈ before.getLast?, Text.isBlank c = true
  stop : ∀ c ∈ after.head?, Text.isBlank c = true

/-- A maximal word is a word among the runs, between the runs of what stands around it. -/
theorem WordAt.runs_eq {s before word after : List Char} (h : WordAt s before word after) :
    runs s = runs before ++ ⟨.word, word⟩ :: runs after := by
  obtain ⟨rfl, hne, hword, hstart, hstop⟩ := h
  have hbefore := (partition_runs before).getLast?_flatten
  have hafter := (partition_runs after).head?_flatten
  rw [text_runs] at hbefore hafter
  rw [runs_eq_iff]
  refine ⟨by simp [text_runs], partition_append_iff.mpr ⟨partition_runs _, ?_, ?_⟩⟩
  · refine partition_cons_iff.mpr ⟨⟨hne, ?_⟩, ?_, partition_runs _⟩
    · intro c hc
      exact RunKind.ofChar_eq_word_iff.mpr (hword c hc)
    · intro q hq hk
      obtain ⟨c, hc, hck⟩ := exists_mem_of_map_eq hafter.symm hq
      rw [← hk, RunKind.ofChar_eq_word_iff, hstop c hc] at hck
      cases hck
  · intro r hr q hq hk
    simp only [List.head?_cons, Option.mem_some_iff] at hq
    subst hq
    obtain ⟨c, hc, hck⟩ := exists_mem_of_map_eq hbefore.symm hr
    rw [hk, RunKind.ofChar_eq_word_iff, hstart c hc] at hck
    cases hck

/-- A word among the runs is a maximal word at its place. -/
theorem wordAt_of_runs_eq {s word : List Char} {rs qs : List Run}
    (h : runs s = rs ++ ⟨.word, word⟩ :: qs) : WordAt s (flatten rs) word (flatten qs) := by
  obtain ⟨hs, hp⟩ := runs_eq_iff.mp h
  obtain ⟨hrs, hmid, hstart⟩ := partition_append_iff.mp hp
  obtain ⟨hword, -, -⟩ := partition_cons_iff.mp hmid
  have hbefore := hrs.getLast?_flatten
  refine ⟨?_, hword.ne_nil, hword.isBlank_eq_false rfl, ?_, hmid.isBlank_head?_flatten rfl⟩
  · rw [← hs, flatten_append, flatten_cons]
  · intro c hc
    obtain ⟨r, hr, hrk⟩ := exists_mem_of_map_eq hbefore hc
    have hne := hstart r hr ⟨.word, word⟩ rfl
    rw [hrk] at hne
    exact RunKind.isBlank_of_ofChar_ne_word hne

/-- A maximal word that starts within the first runs of a line is one of them. -/
theorem WordAt.mem_of_length_lt {s before word after : List Char} {rs qs : List Run}
    (h : WordAt s before word after) (hs : runs s = rs ++ qs)
    (hlt : before.length < (flatten rs).length) : ⟨.word, word⟩ ∈ rs := by
  have heq := h.runs_eq
  rw [hs, List.append_eq_append_iff] at heq
  rcases heq with ⟨as, hbefore, _⟩ | ⟨as, hrs, htail⟩
  · have hle : (flatten rs).length ≤ before.length := by
      rw [← text_runs before, hbefore, flatten_append, List.length_append]
      omega
    omega
  · cases as with
    | nil =>
      rw [hrs, List.append_nil, text_runs] at hlt
      omega
    | cons a as =>
      rw [List.cons_append, List.cons.injEq] at htail
      rw [hrs, htail.1]
      simp

end Line

end ChordSheet
