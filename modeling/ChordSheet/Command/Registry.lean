import ChordSheet.Text.Blank
import ChordSheet.Text.Measure

/-!
# Command names

A registry holds names and what they stand for. An input calls a name if it is that name, or
starts with it and a space; the rest is the argument. Of several names that an input calls, the
longest is meant, and of equal names the one registered first: `unwatch x` does not call `watch`.
To that end the names are kept from the longest to the shortest, in bytes, and those of one
length in the order of registration.

* `mem_register` : a registry holds what it held and what is registered.
* `callArgument?_eq_some_iff` : when an input calls a name.
-/

set_option autoImplicit false

namespace ChordSheet

/-- Names and their meanings, longer names first. -/
structure Registry (α : Type) where
  /-- Name and meaning of each entry. -/
  entries : List (String × α)

namespace Registry

variable {α : Type}

/-- The registry without names. -/
def empty : Registry α := ⟨[]⟩

/-- Puts an entry behind all entries with names at least as long. -/
def insert (name : String) (meaning : α) : List (String × α) → List (String × α)
  | [] => [(name, meaning)]
  | e :: es =>
    if Text.byteLength e.1.toList < Text.byteLength name.toList then (name, meaning) :: e :: es
    else e :: insert name meaning es

/-- Registers a name. -/
def register (r : Registry α) (name : String) (meaning : α) : Registry α :=
  ⟨insert name meaning r.entries⟩

/-- Registers some names in order. -/
def registerAll (r : Registry α) (es : List (String × α)) : Registry α :=
  es.foldl (fun r e => r.register e.1 e.2) r

/-- The names in the order in which they are tried. -/
def names (r : Registry α) : List String := r.entries.map (·.1)

/-- What follows a name at the start of a text. -/
def after? : List Char → List Char → Option (List Char)
  | [], s => some s
  | _ :: _, [] => none
  | c :: cs, d :: ds => if c = d then after? cs ds else none

/-- The argument, without blank margins, with which an input calls a name, if it does. -/
def callArgument? (name input : List Char) : Option (List Char) :=
  match after? name input with
  | some [] => some []
  | some (c :: rest) => if c = ' ' then some (Text.trim (c :: rest)) else none
  | none => none

/-- The meaning of the name that an input calls, and the argument. -/
def dispatch? (r : Registry α) (input : String) : Option (α × String) :=
  r.entries.findSome? fun e =>
    (callArgument? e.1.toList input.toList).map fun argument => (e.2, String.ofList argument)

theorem mem_insert {name : String} {meaning : α} {e : String × α} {es : List (String × α)} :
    e ∈ insert name meaning es ↔ e = (name, meaning) ∨ e ∈ es := by
  induction es with
  | nil => simp [insert]
  | cons d ds ih =>
    unfold insert
    split
    · simp
    · simp [ih, or_left_comm]

theorem mem_register {r : Registry α} {name : String} {meaning : α} {e : String × α} :
    e ∈ (r.register name meaning).entries ↔ e = (name, meaning) ∨ e ∈ r.entries :=
  mem_insert

theorem after?_eq_some_iff {name input rest : List Char} :
    after? name input = some rest ↔ input = name ++ rest := by
  induction name generalizing input with
  | nil => simp [after?, eq_comm]
  | cons c cs ih =>
    cases input with
    | nil => simp [after?]
    | cons d ds =>
      by_cases h : c = d
      · simp [after?, h, ih]
      · simp [after?, h, Ne.symm h]

theorem callArgument?_eq_some_iff {name input argument : List Char} :
    callArgument? name input = some argument ↔
      (input = name ∧ argument = []) ∨
        ∃ rest, input = name ++ ' ' :: rest ∧ argument = Text.trim (' ' :: rest) := by
  unfold callArgument?
  cases h : after? name input with
  | none =>
    have hne : ∀ rest, input ≠ name ++ rest := by
      intro rest hr
      rw [after?_eq_some_iff.mpr hr] at h
      cases h
    simp only [reduceCtorEq, false_iff, not_or, not_exists, not_and]
    exact ⟨fun e => absurd (by simpa using e) (hne []), fun rest hr => absurd hr (hne _)⟩
  | some rest =>
    have hr := after?_eq_some_iff.mp h
    subst hr
    cases rest with
    | nil => simp [eq_comm]
    | cons c cs =>
      by_cases hc : c = ' '
      · subst hc
        simp [eq_comm]
      · simp [hc]

end Registry

end ChordSheet
