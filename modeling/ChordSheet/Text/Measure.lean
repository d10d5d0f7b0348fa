/-!
# Sizes of a text and places in it

The size of a text in bytes is that of its UTF-8 encoding; the width of a column counts
characters. A place in a text is the number of bytes before it. A text can be cut only at a place
where a character starts or the text ends; every other place is *misplaced*.

* `byteLength_append` : sizes add up.
* `dropBytes_append` : what is dropped is as many bytes as were asked for, where characters end.
* `cutAt?_append`, `append_of_cutAt?` : a text is cut at the size of what stands before the place.
* `find?_charIndices` : the place of a character is the size of the text before it.
-/

set_option autoImplicit false

namespace ChordSheet.Text

/-- The number of bytes of a text in UTF-8. -/
def byteLength : List Char → Nat
  | [] => 0
  | c :: cs => c.utf8Size + byteLength cs

/-- The text followed by spaces up to a width; a longer text stays as it is. -/
def padRight (width : Nat) (s : List Char) : List Char :=
  s ++ List.replicate (width - s.length) ' '

/-- The text without a number of bytes at its start; a character goes as a whole if its first
byte goes. -/
def dropBytes : Nat → List Char → List Char
  | 0, s => s
  | _ + 1, [] => []
  | n + 1, c :: cs => dropBytes (n + 1 - c.utf8Size) cs

/-- A place that lies within a character or behind the end of the text. -/
structure Misplaced where
  /-- The number of bytes before the place. -/
  place : Nat
  deriving DecidableEq, Repr

/-- Cuts a text at a place, unless that is misplaced. -/
def cutAt? : Nat → List Char → Option (List Char × List Char)
  | 0, s => some ([], s)
  | _ + 1, [] => none
  | n + 1, c :: cs =>
    if c.utf8Size ≤ n + 1 then (cutAt? (n + 1 - c.utf8Size) cs).map fun (a, b) => (c :: a, b)
    else none

/-- The text from a place on. -/
def textFrom (place : Nat) (s : List Char) : Except Misplaced (List Char) :=
  match cutAt? place s with
  | some (_, after) => .ok after
  | none => .error ⟨place⟩

/-- The text of a number of bytes from a place on. -/
def slice (place length : Nat) (s : List Char) : Except Misplaced (List Char) := do
  let after ← textFrom place s
  match cutAt? length after with
  | some (between, _) => .ok between
  | none => .error ⟨place + length⟩

/-- The characters of a text with their places, the first at `start`. -/
def charIndices (start : Nat) : List Char → List (Nat × Char)
  | [] => []
  | c :: cs => (start, c) :: charIndices (start + c.utf8Size) cs

theorem byteLength_append (s t : List Char) :
    byteLength (s ++ t) = byteLength s + byteLength t := by
  induction s with
  | nil => simp [byteLength]
  | cons c cs ih => simp [byteLength, ih, Nat.add_assoc]

theorem byteLength_replicate (n : Nat) (c : Char) :
    byteLength (List.replicate n c) = n * c.utf8Size := by
  induction n with
  | zero => simp [byteLength]
  | succ n ih => rw [List.replicate_succ, byteLength, ih, Nat.succ_mul, Nat.add_comm]

theorem utf8ByteSize_ofList (s : List Char) : (String.ofList s).utf8ByteSize = byteLength s := by
  induction s with
  | nil => rfl
  | cons c cs ih =>
    have hcons : String.ofList (c :: cs) = String.singleton c ++ String.ofList cs := by
      rw [← String.toList_inj]
      simp
    rw [hcons, String.utf8ByteSize_append, String.utf8ByteSize_singleton, ih, byteLength]

theorem byteLength_reverse (s : List Char) : byteLength s.reverse = byteLength s := by
  induction s with
  | nil => rfl
  | cons c cs ih =>
    simp only [List.reverse_cons, byteLength_append, byteLength, ih]
    omega

theorem dropBytes_append (s t : List Char) : dropBytes (byteLength s) (s ++ t) = t := by
  induction s with
  | nil => simp [byteLength, dropBytes]
  | cons c cs ih =>
    have pos := c.utf8Size_pos
    obtain ⟨n, hn⟩ : ∃ n, byteLength (c :: cs) = n + 1 :=
      ⟨byteLength (c :: cs) - 1, by simp only [byteLength]; omega⟩
    rw [hn, List.cons_append, dropBytes]
    have : n + 1 - c.utf8Size = byteLength cs := by simp only [byteLength] at hn; omega
    rw [this, ih]

theorem cutAt?_append (a b : List Char) : cutAt? (byteLength a) (a ++ b) = some (a, b) := by
  induction a with
  | nil => simp [byteLength, cutAt?]
  | cons c cs ih =>
    have pos := c.utf8Size_pos
    obtain ⟨n, hn⟩ : ∃ n, byteLength (c :: cs) = n + 1 :=
      ⟨byteLength (c :: cs) - 1, by simp only [byteLength]; omega⟩
    have hle : c.utf8Size ≤ n + 1 := by simp only [byteLength] at hn; omega
    have hrest : n + 1 - c.utf8Size = byteLength cs := by simp only [byteLength] at hn; omega
    rw [hn, List.cons_append, cutAt?, if_pos hle, hrest, ih]
    rfl

theorem append_of_cutAt? {n : Nat} {s a b : List Char} (h : cutAt? n s = some (a, b)) :
    s = a ++ b ∧ byteLength a = n := by
  induction s generalizing n a with
  | nil =>
    cases n with
    | zero => cases h; exact ⟨rfl, rfl⟩
    | succ n => cases h
  | cons c cs ih =>
    cases n with
    | zero => cases h; exact ⟨rfl, rfl⟩
    | succ n =>
      rw [cutAt?] at h
      split at h
      · obtain ⟨⟨a', b'⟩, hcut, heq⟩ := Option.map_eq_some_iff.mp h
        cases heq
        obtain ⟨rfl, hlength⟩ := ih hcut
        exact ⟨rfl, by simp only [byteLength]; omega⟩
      · cases h

theorem textFrom_append (a b : List Char) : textFrom (byteLength a) (a ++ b) = .ok b := by
  rw [textFrom, cutAt?_append]

theorem append_of_textFrom {n : Nat} {s b : List Char} (h : textFrom n s = .ok b) :
    ∃ a, s = a ++ b ∧ byteLength a = n := by
  unfold textFrom at h
  split at h
  · rename_i a after hcut
    cases h
    exact ⟨a, append_of_cutAt? hcut⟩
  · cases h

theorem slice_append (a t b : List Char) :
    slice (byteLength a) (byteLength t) (a ++ (t ++ b)) = .ok t := by
  simp [slice, textFrom_append, cutAt?_append, bind, Except.bind]

/-- The first character that is not of a class stands behind the text of that class; without such
a character that text goes to the end. -/
theorem find?_charIndices (p : Char → Bool) (start : Nat) (s : List Char) :
    (((charIndices start s).find? fun e => !p e.2).map Prod.fst).getD (start + byteLength s) =
      start + byteLength (s.takeWhile p) := by
  induction s generalizing start with
  | nil => rfl
  | cons c cs ih =>
    rw [charIndices, List.find?_cons, List.takeWhile_cons]
    cases hc : p c with
    | false => simp [byteLength]
    | true =>
      have hrest := ih (start + c.utf8Size)
      simp only [Nat.add_assoc] at hrest
      simpa [byteLength] using hrest

end ChordSheet.Text
