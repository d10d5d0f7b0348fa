import Mathlib.Data.List.Forall2
import ChordSheet.Text.Lowercase

/-!
# Words of a lowercase text

The *spellings* of a letter are the characters whose lowercase form is that letter. Where the
letters of a word have known spellings, the word stands in the lowercase form of a text exactly if
the text has characters in a row that spell it, letter by letter: longer forms and the two forms of
the sigma make no difference.

* `Text.spellings_of_origins` : the spellings of a letter are read off the table.
* `Text.infix_lowercase_iff` : a word of the lowercase form is a spelled word of the text.
-/

set_option autoImplicit false

namespace ChordSheet.Text

/-! ## Spellings of a letter -/

/-- Some characters are those whose lowercase form is a letter, in any place; no other form holds
it. -/
structure Spellings (d : Char) (cs : List Char) : Prop where
  lowerAt_eq : ∀ c ∈ cs, ∀ before after, lowerAt before c after = [d]
  mem_of_mem : ∀ c before after, d ∈ lowerAt before c after → c ∈ cs

theorem toNat_eq_of_ofNat_eq {n : Nat} {d : Char} (h : Char.ofNat n = d) (hd : d ≠ '\x00') :
    n = d.toNat := by
  by_cases hn : n.isValidChar
  · have hchar : Char.ofNat n = Char.ofNatAux n hn := dif_pos hn
    rw [← h, hchar]
    rfl
  · have hzero : Char.ofNat n = '\x00' := dif_neg hn
    exact absurd (h.symm.trans hzero) hd

/-- **The spellings of a letter are read off the table:** the letter itself and its origins, if
the letter is none of the characters that come from elsewhere. -/
theorem spellings_of_origins {d : Char} {cs : List Char}
    (hd : d ∉ ['\x00', 'σ', 'ς', 'i', '\u0307'])
    (horigins : d.toNat :: CaseRow.origins lowerRows d.toNat = cs.map Char.toNat)
    (hforms : cs.all (fun c => c != 'Σ' && lowerChar c == [d]) = true) : Spellings d cs := by
  simp only [List.mem_cons, List.not_mem_nil, or_false, not_or] at hd
  obtain ⟨hzero, hsmall, hfinal, hi, hdot⟩ := hd
  simp only [List.all_eq_true, Bool.and_eq_true, bne_iff_ne, beq_iff_eq] at hforms
  constructor
  · intro c hc before after
    obtain ⟨hsigma, hform⟩ := hforms c hc
    rw [lowerAt, if_neg hsigma, hform]
  · intro c before after hmem
    unfold lowerAt lowerChar at hmem
    split at hmem
    · split at hmem <;> simp_all
    · split at hmem
      · simp_all
      · -- only the table is left: what it changes into the letter is an origin of the letter
        have hn := toNat_eq_of_ofNat_eq (List.mem_singleton.mp hmem).symm hzero
        have hlisted : c.toNat ∈ cs.map Char.toNat := by
          rw [← horigins, List.mem_cons]
          rcases CaseRow.mem_origins hn with heq | horigin
          · exact .inl heq
          · exact .inr horigin
        obtain ⟨e, he, heq⟩ := List.mem_map.mp hlisted
        rwa [← Char.toNat_inj.mp heq]

/-! ## Spelled words -/

/-- A text has characters in a row of which each is in the class at its place. -/
def Spelled (classes : List (List Char)) (s : List Char) : Prop :=
  ∃ before word after, s = before ++ (word ++ after) ∧ List.Forall₂ (· ∈ ·) word classes

theorem cons_prefix_lowerFrom_iff {d : Char} {cs : List Char} (h : Spellings d cs)
    {u s before : List Char} :
    d :: u <+: lowerFrom before s ↔
      ∃ c t, s = c :: t ∧ c ∈ cs ∧ u <+: lowerFrom (c :: before) t := by
  constructor
  · intro hp
    cases s with
    | nil => simp [lowerFrom] at hp
    | cons c t =>
      have hc : c ∈ cs := by
        obtain ⟨x, xs, hform⟩ := List.exists_cons_of_ne_nil (lowerAt_ne_nil before c t)
        rw [lowerFrom, hform, List.cons_append, List.cons_prefix_cons] at hp
        exact h.mem_of_mem c before t (by simp [hform, hp.1])
      rw [lowerFrom, h.lowerAt_eq c hc, List.singleton_append, List.cons_prefix_cons] at hp
      exact ⟨c, t, rfl, hc, hp.2⟩
  · rintro ⟨c, t, rfl, hc, hu⟩
    rw [lowerFrom, h.lowerAt_eq c hc, List.singleton_append, List.cons_prefix_cons]
    exact ⟨rfl, hu⟩

/-- A word starts the lowercase form of a text exactly if the text starts with a spelling of it. -/
theorem prefix_lowerFrom_iff {word : List Char} {classes : List (List Char)}
    (h : List.Forall₂ Spellings word classes) {s before : List Char} :
    word <+: lowerFrom before s ↔
      ∃ spelled after, s = spelled ++ after ∧ List.Forall₂ (· ∈ ·) spelled classes := by
  induction h generalizing s before with
  | nil =>
    refine iff_of_true List.nil_prefix ⟨[], s, rfl, .nil⟩
  | @cons d cs u classes hd _ ih =>
    rw [cons_prefix_lowerFrom_iff hd]
    constructor
    · rintro ⟨c, t, rfl, hc, hu⟩
      obtain ⟨spelled, after, rfl, hspelled⟩ := ih.mp hu
      exact ⟨c :: spelled, after, rfl, .cons hc hspelled⟩
    · rintro ⟨spelled, after, rfl, hspelled⟩
      cases hspelled with
      | @cons c _ t _ hc ht => exact ⟨c, t ++ after, rfl, hc, ih.mpr ⟨t, after, rfl, ht⟩⟩

/-- What holds no first letter of a word does not help to find it. -/
theorem cons_infix_append_iff {d : Char} {u xs t : List Char} (h : d ∉ xs) :
    d :: u <:+: xs ++ t ↔ d :: u <:+: t := by
  induction xs with
  | nil => rfl
  | cons x xs ih =>
    have hx : d ≠ x := fun e => h (by simp [e])
    have hxs : d ∉ xs := fun e => h (List.mem_cons_of_mem _ e)
    rw [List.cons_append, List.infix_cons_iff, ih hxs, List.cons_prefix_cons]
    exact or_iff_right fun hd => hx hd.1

/-- A word is found where a character starts to be written, or further on. -/
theorem cons_infix_lowerFrom_cons_iff {d : Char} {cs : List Char} (h : Spellings d cs)
    {u t before : List Char} {c : Char} :
    d :: u <:+: lowerFrom before (c :: t) ↔
      d :: u <+: lowerFrom before (c :: t) ∨ d :: u <:+: lowerFrom (c :: before) t := by
  obtain ⟨x, xs, hform⟩ := List.exists_cons_of_ne_nil (lowerAt_ne_nil before c t)
  have hxs : d ∉ xs := by
    intro hmem
    have hc : c ∈ cs := h.mem_of_mem c before t (by simp [hform, hmem])
    rw [h.lowerAt_eq c hc, List.cons.injEq] at hform
    simp [← hform.2] at hmem
  rw [lowerFrom, hform, List.cons_append, List.infix_cons_iff, cons_infix_append_iff hxs]

theorem spelled_cons_iff {classes : List (List Char)} {c : Char} {t : List Char} :
    Spelled classes (c :: t) ↔
      (∃ spelled after, c :: t = spelled ++ after ∧ List.Forall₂ (· ∈ ·) spelled classes) ∨
        Spelled classes t := by
  constructor
  · rintro ⟨before, word, after, hs, hword⟩
    cases before with
    | nil => exact .inl ⟨word, after, hs, hword⟩
    | cons b before =>
      rw [List.cons_append, List.cons.injEq] at hs
      exact .inr ⟨before, word, after, hs.2, hword⟩
  · rintro (⟨word, after, hs, hword⟩ | ⟨before, word, after, rfl, hword⟩)
    · exact ⟨[], word, after, hs, hword⟩
    · exact ⟨c :: before, word, after, rfl, hword⟩

theorem infix_lowerFrom_iff {word : List Char} {classes : List (List Char)}
    (h : List.Forall₂ Spellings word classes) (hne : word ≠ []) (s before : List Char) :
    word <:+: lowerFrom before s ↔ Spelled classes s := by
  cases h with
  | nil => exact absurd rfl hne
  | @cons d cs u classes hd hu =>
    induction s generalizing before with
    | nil =>
      refine iff_of_false (by simp [lowerFrom]) ?_
      rintro ⟨b, word, after, hs, hword⟩
      obtain ⟨_, hs⟩ := List.append_eq_nil_iff.mp hs.symm
      obtain ⟨rfl, _⟩ := List.append_eq_nil_iff.mp hs
      cases hword
    | cons c t ih =>
      rw [cons_infix_lowerFrom_cons_iff hd, ih, prefix_lowerFrom_iff (.cons hd hu),
        spelled_cons_iff]

/-- **A word stands in the lowercase form of a text exactly if the text spells it**, letter by
letter. -/
theorem infix_lowercase_iff {word : List Char} {classes : List (List Char)}
    (h : List.Forall₂ Spellings word classes) (hne : word ≠ []) (s : List Char) :
    word <:+: lowercase s ↔ Spelled classes s :=
  infix_lowerFrom_iff h hne s []

end ChordSheet.Text
