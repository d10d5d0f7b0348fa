/-!
# Cutting a text at a separator

`pieces` cuts at every separator and keeps empty pieces; `join` puts the separators back.
`cutFirst?` and `cutLast?` cut once, at the first or last character of a class, and drop that
character.

* `join_pieces` : joining the pieces gives the text back.
* `append_of_cutFirst?`, `append_of_cutLast?` : a single cut loses the separator only.
* `length_lt_of_cutFirst?` : what follows a cut is shorter than the text.
-/

set_option autoImplicit false

namespace ChordSheet.Text

/-- The pieces of a text between its separators; there is one more than there are
separators. -/
def pieces (sep : Char) : List Char → List (List Char)
  | [] => [[]]
  | c :: cs =>
    if c = sep then [] :: pieces sep cs
    else
      match pieces sep cs with
      | [] => [[c]]
      | p :: ps => (c :: p) :: ps

/-- The pieces with a separator between each two. -/
def join (sep : Char) : List (List Char) → List Char
  | [] => []
  | [p] => p
  | p :: ps => p ++ sep :: join sep ps

theorem pieces_ne_nil (sep : Char) (s : List Char) : pieces sep s ≠ [] := by
  cases s with
  | nil => simp [pieces]
  | cons c cs =>
    unfold pieces
    split
    · simp
    · split <;> simp

theorem join_pieces (sep : Char) (s : List Char) : join sep (pieces sep s) = s := by
  induction s with
  | nil => rfl
  | cons c cs ih =>
    unfold pieces
    cases h : pieces sep cs with
    | nil => exact absurd h (pieces_ne_nil sep cs)
    | cons p ps =>
      rw [h] at ih
      split
      · subst_vars; simp [join]
      · cases ps <;> simp_all [join]

/-- Cuts at the first character of the class `p`. -/
def cutFirst? (p : Char → Bool) : List Char → Option (List Char × List Char)
  | [] => none
  | c :: cs => if p c then some ([], cs) else (cutFirst? p cs).map fun (a, b) => (c :: a, b)

/-- Cuts at the last character of the class `p`. -/
def cutLast? (p : Char → Bool) : List Char → Option (List Char × List Char)
  | [] => none
  | c :: cs =>
    match cutLast? p cs with
    | some (a, b) => some (c :: a, b)
    | none => if p c then some ([], cs) else none

theorem append_of_cutFirst? {p : Char → Bool} :
    ∀ {s a b : List Char}, cutFirst? p s = some (a, b) →
      ∃ c, p c = true ∧ (∀ x ∈ a, p x = false) ∧ s = a ++ c :: b
  | [], _, _, h => by simp [cutFirst?] at h
  | c :: cs, a, b, h => by
    unfold cutFirst? at h
    split at h
    · rename_i hc
      simp only [Option.some.injEq, Prod.mk.injEq] at h
      obtain ⟨rfl, rfl⟩ := h
      exact ⟨c, hc, by simp, rfl⟩
    · rename_i hc
      obtain ⟨⟨a', b'⟩, h', heq⟩ := Option.map_eq_some_iff.mp h
      simp only [Prod.mk.injEq] at heq
      obtain ⟨rfl, rfl⟩ := heq
      obtain ⟨d, hd, ha, rfl⟩ := append_of_cutFirst? h'
      refine ⟨d, hd, ?_, rfl⟩
      intro x hx
      rcases List.mem_cons.mp hx with rfl | hx
      · simpa using hc
      · exact ha x hx

theorem length_lt_of_cutFirst? {p : Char → Bool} {s a b : List Char}
    (h : cutFirst? p s = some (a, b)) : b.length < s.length := by
  obtain ⟨c, _, _, rfl⟩ := append_of_cutFirst? h
  simp only [List.length_append, List.length_cons]
  omega

theorem cutFirst?_eq_none {p : Char → Bool} :
    ∀ {s : List Char}, cutFirst? p s = none → ∀ x ∈ s, p x = false
  | [], _, x, hx => by cases hx
  | c :: cs, h, x, hx => by
    unfold cutFirst? at h
    split at h
    · cases h
    · rename_i hc
      rcases List.mem_cons.mp hx with rfl | hx
      · simpa using hc
      · exact cutFirst?_eq_none (Option.map_eq_none_iff.mp h) x hx

theorem cutLast?_eq_none {p : Char → Bool} :
    ∀ {s : List Char}, cutLast? p s = none → ∀ x ∈ s, p x = false
  | [], _, x, hx => by cases hx
  | c :: cs, h, x, hx => by
    unfold cutLast? at h
    split at h
    · cases h
    · rename_i hn
      split at h
      · cases h
      · rename_i hc
        rcases List.mem_cons.mp hx with rfl | hx
        · simpa using hc
        · exact cutLast?_eq_none hn x hx

theorem append_of_cutLast? {p : Char → Bool} :
    ∀ {s a b : List Char}, cutLast? p s = some (a, b) →
      ∃ c, p c = true ∧ (∀ x ∈ b, p x = false) ∧ s = a ++ c :: b
  | [], _, _, h => by simp [cutLast?] at h
  | c :: cs, a, b, h => by
    unfold cutLast? at h
    split at h
    · rename_i a' b' h'
      simp only [Option.some.injEq, Prod.mk.injEq] at h
      obtain ⟨rfl, rfl⟩ := h
      obtain ⟨d, hd, hb, rfl⟩ := append_of_cutLast? h'
      exact ⟨d, hd, hb, rfl⟩
    · rename_i hn
      split at h
      · rename_i hc
        simp only [Option.some.injEq, Prod.mk.injEq] at h
        obtain ⟨rfl, rfl⟩ := h
        exact ⟨c, hc, cutLast?_eq_none hn, rfl⟩
      · cases h

end ChordSheet.Text
