import Mathlib.Data.List.DropRight
import ChordSheet.Text.Blank

/-!
# Margins

A text is *trimmed* if it neither starts nor ends in a blank. Trimming leaves such texts as they
are, and what it leaves of any text is such a text.

* `Text.Trimmed.trim_eq` : trimming leaves trimmed texts as they are.
* `Text.trimmed_trim` : what is left of a text is trimmed.
* `Text.Trimmed.append` : texts that are trimmed are so with anything between them.
* `Text.trim_eq_iff` : a text is what trimming leaves of it, with blanks around that.
-/

set_option autoImplicit false

namespace ChordSheet.Text

variable {s : List Char}

/-- A text that neither starts nor ends in a blank. -/
structure Trimmed (s : List Char) : Prop where
  head : ∀ c, s.head? = some c → isBlank c = false
  last : ∀ c, s.getLast? = some c → isBlank c = false

theorem trimmed_iff : Trimmed s ↔
    (s.head?.all fun c => !isBlank c) = true ∧ (s.getLast?.all fun c => !isBlank c) = true := by
  simp only [Option.all_eq_true, Bool.not_eq_true']
  exact ⟨fun h => ⟨h.head, h.last⟩, fun h => ⟨h.1, h.2⟩⟩

instance (s : List Char) : Decidable (Trimmed s) := decidable_of_iff _ trimmed_iff.symm

theorem dropWhile_isBlank_eq_self (h : ∀ c, s.head? = some c → isBlank c = false) :
    s.dropWhile isBlank = s := by
  cases s with
  | nil => rfl
  | cons c cs => simp [h c rfl]

theorem trim_prefix_trimStart (s : List Char) : trim s <+: trimStart s :=
  List.rdropWhile_prefix isBlank _

theorem Trimmed.trimStart_eq (h : Trimmed s) : trimStart s = s := dropWhile_isBlank_eq_self h.head

theorem Trimmed.trimEnd_eq (h : Trimmed s) : trimEnd s = s := by
  have hreverse : ∀ c, s.reverse.head? = some c → isBlank c = false := by
    intro c hc
    rw [List.head?_reverse] at hc
    exact h.last c hc
  rw [trimEnd, dropWhile_isBlank_eq_self hreverse, List.reverse_reverse]

theorem Trimmed.trim_eq (h : Trimmed s) : trim s = s := by
  rw [trim, h.trimStart_eq, h.trimEnd_eq]

theorem trimmed_trim (s : List Char) : Trimmed (trim s) := by
  constructor
  · intro c hc
    obtain ⟨rest, hrest⟩ := trim_prefix_trimStart s
    have hstart : (trimStart s).head? = some c := by
      rw [← hrest, List.head?_append, hc]
      rfl
    have hnot := List.head?_dropWhile_not isBlank s
    rw [show s.dropWhile isBlank = trimStart s from rfl, hstart] at hnot
    exact hnot
  · intro c hc
    have hnot := List.head?_dropWhile_not isBlank (trimStart s).reverse
    rw [trim, trimEnd, List.getLast?_reverse] at hc
    rw [hc] at hnot
    exact hnot

theorem trimmed_of_forall (h : ∀ c ∈ s, isBlank c = false) : Trimmed s :=
  ⟨fun c hc => h c (List.mem_of_head? hc), fun c hc => h c (List.mem_of_getLast? hc)⟩

theorem mem_of_mem_trim {c : Char} (h : c ∈ trim s) : c ∈ s :=
  (List.dropWhile_sublist isBlank).subset ((trim_prefix_trimStart s).subset h)

/-- What trimming takes off a text is blank. -/
theorem exists_margins (s : List Char) : ∃ before after,
    s = before ++ (trim s ++ after) ∧ allBlank before = true ∧ allBlank after = true := by
  refine ⟨s.takeWhile isBlank, (trimStart s).rtakeWhile isBlank, ?_, ?_, ?_⟩
  · have hend : trim s ++ (trimStart s).rtakeWhile isBlank = trimStart s :=
      List.rdropWhile_append_rtakeWhile
    rw [hend, trimStart, List.takeWhile_append_dropWhile]
  · exact List.all_takeWhile
  · exact List.all_eq_true.mpr fun c hc => List.mem_rtakeWhile_imp hc

theorem trimStart_append_of_allBlank {before : List Char} (h : allBlank before = true)
    (s : List Char) : trimStart (before ++ s) = trimStart s :=
  List.dropWhile_append_of_pos (List.all_eq_true.mp h)

theorem trimEnd_append_of_allBlank (s : List Char) {after : List Char}
    (h : allBlank after = true) : trimEnd (s ++ after) = trimEnd s := by
  have hreverse : ∀ c ∈ after.reverse, isBlank c = true :=
    fun c hc => List.all_eq_true.mp h c (List.mem_reverse.mp hc)
  rw [trimEnd, trimEnd, List.reverse_append, List.dropWhile_append_of_pos hreverse]

/-- **A text is what trimming leaves of it, with blanks around that.** -/
theorem trim_eq_iff {t : List Char} : trim s = t ↔ Trimmed t ∧ ∃ before after,
    s = before ++ (t ++ after) ∧ allBlank before = true ∧ allBlank after = true := by
  constructor
  · rintro rfl
    exact ⟨trimmed_trim s, exists_margins s⟩
  · rintro ⟨ht, before, after, rfl, hbefore, hafter⟩
    cases t with
    | nil =>
      rw [List.nil_append, trim, trimStart_append_of_allBlank hbefore, ← List.append_nil after,
        trimStart_append_of_allBlank hafter]
      rfl
    | cons c cs =>
      have hstart : trimStart (c :: cs ++ after) = c :: cs ++ after :=
        dropWhile_isBlank_eq_self fun d hd => ht.head d (by simpa using hd)
      rw [trim, trimStart_append_of_allBlank hbefore, hstart, trimEnd_append_of_allBlank _ hafter,
        ht.trimEnd_eq]

theorem trim_cons_of_isBlank {c : Char} (hc : isBlank c = true) (s : List Char) :
    trim (c :: s) = trim s := by
  rw [trim, trim, trimStart, trimStart, List.dropWhile_cons_of_pos hc]

/-- What stands around a text decides whether its ends are blank. -/
theorem Trimmed.append {a b : List Char} (ha : Trimmed a) (hb : Trimmed b) (hane : a ≠ [])
    (hbne : b ≠ []) (mid : List Char) : Trimmed (a ++ mid ++ b) := by
  obtain ⟨x, xs, rfl⟩ := List.exists_cons_of_ne_nil hane
  constructor
  · intro c hc
    exact ha.head c hc
  · intro c hc
    rw [List.getLast?_append_of_ne_nil _ hbne] at hc
    exact hb.last c hc

end ChordSheet.Text
