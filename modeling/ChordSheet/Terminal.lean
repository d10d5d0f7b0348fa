/-!
# Control sequences of a terminal

A text that is sent to a terminal may hold control sequences, which are obeyed and not shown.
`visible` is what is left of a text without them: characters that print, and white space. Single
control characters are left out as well.

A sequence starts with the escape character. Most end at their first letter; a *command* to the
terminal goes on to the bell, and other strings to the byte that ends a string. An escape
character starts a new sequence anywhere. White space is shown even inside most sequences, and
so is the text after it; the next control character goes back into the sequence that the white
space broke off.

* `visible_eq_self` : a text without control characters is visible as a whole.
* `isShown_of_mem_visible` : only characters that print and white space are visible.
-/

set_option autoImplicit false

namespace ChordSheet.Terminal

/-- Where a terminal is in what it is sent. -/
inductive Phase where
  /-- Outside all sequences. -/
  | text
  /-- After the escape character. -/
  | escape
  /-- After the escape character and punctuation. -/
  | escapeTail
  /-- After the escape character and an opening bracket. -/
  | control
  /-- Before the parameters of a string for a device. -/
  | device
  /-- Among the parameters of a string for a device. -/
  | deviceParameters
  /-- After the parameters of a string for a device. -/
  | deviceTail
  /-- In a string that goes on to the byte that ends it. -/
  | payload
  /-- In a command, which goes on to the bell. -/
  | command
  deriving DecidableEq, Repr

/-- White space that a terminal obeys everywhere but in strings. -/
def isSpacing (c : Char) : Bool := c == '\t' || c == '\n' || c == '\x0c' || c == '\r'

/-- Whether a character is shown outside all sequences. -/
def isShown (c : Char) : Bool := isSpacing c || (' ' ≤ c && c ≠ '\x7f')

/-- Whether one of the bytes of a character is the byte that ends a string. -/
def endsString (c : Char) : Bool := (String.utf8EncodeChar c).contains 0x9C

namespace Phase

/-- Whether a character is shown in a phase. -/
def shows : Phase → Char → Bool
  | text, c => isShown c
  | escape, c | escapeTail, c | control, c => isSpacing c
  | device, _ | deviceParameters, _ | deviceTail, _ | payload, _ | command, _ => false

/-- The phase after a character that follows the escape character. -/
def afterEscape (c : Char) : Phase :=
  if c = '[' then control
  else if c = ']' then command
  else if c = 'P' then device
  else if c = 'X' || c = '^' || c = '_' then payload
  else if ' ' ≤ c && c ≤ '/' then escapeTail
  else if '0' ≤ c && c ≤ '~' then text
  else escape

/-- The phase after a character that is not shown. Two control characters break any sequence
off. -/
def next (p : Phase) (c : Char) : Phase :=
  if c = '\x1b' then escape
  else if c = '\x18' || c = '\x1a' then text
  else
    match p with
    | text => text
    | escape => afterEscape c
    | escapeTail => if '0' ≤ c && c ≤ '~' then text else escapeTail
    | control => if '@' ≤ c && c ≤ '~' then text else control
    | device =>
      if ' ' ≤ c && c ≤ '/' then deviceTail
      else if '0' ≤ c && c ≤ '?' then deviceParameters
      else if '@' ≤ c && c ≤ '~' then payload
      else device
    | deviceParameters =>
      if ' ' ≤ c && c ≤ '/' then deviceTail
      else if '<' ≤ c && c ≤ '~' then payload
      else deviceParameters
    | deviceTail => if '0' ≤ c && c ≤ '~' then payload else deviceTail
    | payload => if endsString c then text else payload
    | command => if c = '\x07' then text else command

end Phase

/-- The characters that are shown from a phase on. While text is being shown, the phase is that
of the sequence that was broken off, if any; a character beyond ASCII forgets it. -/
def visibleFrom (p : Phase) (showing : Bool) : List Char → List Char
  | [] => []
  | c :: cs =>
    if (if showing then Phase.text else p).shows c then
      c :: visibleFrom (if showing && 128 ≤ c.toNat then .text else p) true cs
    else visibleFrom (p.next c) false cs

/-- The characters of a text that are shown. -/
def visible (s : List Char) : List Char := visibleFrom .text false s

theorem isShown_of_shows {p : Phase} {c : Char} (h : p.shows c = true) : isShown c = true := by
  cases p <;> simp_all [Phase.shows, isShown]

theorem isShown_of_mem_visibleFrom {p : Phase} {showing : Bool} {s : List Char} {c : Char}
    (h : c ∈ visibleFrom p showing s) : isShown c = true := by
  induction s generalizing p showing with
  | nil => cases h
  | cons d ds ih =>
    simp only [visibleFrom] at h
    by_cases hd : (if showing then Phase.text else p).shows d = true
    · rw [if_pos hd] at h
      rcases List.mem_cons.1 h with rfl | h
      · exact isShown_of_shows hd
      · exact ih h
    · rw [if_neg hd] at h
      exact ih h

theorem isShown_of_mem_visible {s : List Char} {c : Char} (h : c ∈ visible s) :
    isShown c = true :=
  isShown_of_mem_visibleFrom h

theorem visibleFrom_text_eq_self {s : List Char} (h : ∀ c ∈ s, isShown c = true)
    (showing : Bool) : visibleFrom .text showing s = s := by
  induction s generalizing showing with
  | nil => rfl
  | cons c cs ih =>
    have hc : Phase.text.shows c = true := h c List.mem_cons_self
    simp only [visibleFrom, ite_self, hc, if_true]
    rw [ih fun d hd => h d (List.mem_cons_of_mem _ hd)]

theorem visible_eq_self {s : List Char} (h : ∀ c ∈ s, isShown c = true) : visible s = s :=
  visibleFrom_text_eq_self h false

end ChordSheet.Terminal
