import ChordSheet.Text.Blank
import ChordSheet.Text.Measure

/-!
# The runs of a line

A line falls into maximal runs of blanks and maximal runs of other characters, the *words*. The
runs in order make up the line, so that words can be replaced and every blank be kept. A *span*
is a run with the place, in bytes, at which it starts.

* `text_runs` : the runs of a line make up the line.
* `forall_mem_runs` : a run is not empty and holds characters of its own kind only.
-/

set_option autoImplicit false

namespace ChordSheet

/-- What a run consists of. -/
inductive RunKind where
  | blank
  | word
  deriving DecidableEq, Repr

namespace RunKind

/-- The kind of run in which a character stands. -/
def ofChar (c : Char) : RunKind := if Text.isBlank c then blank else word

end RunKind

/-- A run of a line. -/
structure Run where
  /-- Blanks or others. -/
  kind : RunKind
  /-- The characters of the run. -/
  text : List Char
  deriving DecidableEq, Repr

/-- A run and its place in the line. -/
structure Span where
  /-- Blanks or others. -/
  kind : RunKind
  /-- The characters of the run. -/
  text : String
  /-- The number of bytes before the run. -/
  start : Nat
  deriving DecidableEq, Repr

namespace Run

/-- Puts a character in front of the runs that follow it: into the first run if that is of its
kind, else as a run of its own. -/
def push (c : Char) : List Run → List Run
  | [] => [⟨.ofChar c, [c]⟩]
  | r :: rs =>
    if r.kind = .ofChar c then ⟨r.kind, c :: r.text⟩ :: rs
    else ⟨.ofChar c, [c]⟩ :: r :: rs

/-- The characters of the runs in order. -/
def flatten (rs : List Run) : List Char := rs.flatMap Run.text

/-- The runs with their places, the first at `start`. -/
def place (start : Nat) : List Run → List Span
  | [] => []
  | r :: rs =>
    ⟨r.kind, String.ofList r.text, start⟩ :: place (start + Text.byteLength r.text) rs

theorem flatten_push (c : Char) (rs : List Run) : flatten (push c rs) = c :: flatten rs := by
  cases rs with
  | nil => rfl
  | cons r rs => simp only [push]; split <;> simp [flatten]

end Run

namespace Line

/-- The maximal runs of a line. -/
def runs : List Char → List Run
  | [] => []
  | c :: cs => Run.push c (runs cs)

theorem text_runs (s : List Char) : Run.flatten (runs s) = s := by
  induction s with
  | nil => rfl
  | cons c cs ih => rw [runs, Run.flatten_push, ih]

theorem forall_mem_runs {s : List Char} {r : Run} (h : r ∈ runs s) :
    r.text ≠ [] ∧ ∀ c ∈ r.text, RunKind.ofChar c = r.kind := by
  induction s generalizing r with
  | nil => cases h
  | cons c cs ih =>
    simp only [runs] at h
    cases hr : runs cs with
    | nil =>
      simp only [hr, Run.push, List.mem_singleton] at h
      subst h
      simp
    | cons q qs =>
      rw [hr] at ih
      simp only [hr, Run.push] at h
      split at h
      · rename_i hk
        rcases List.mem_cons.mp h with rfl | h
        · have hq := ih (r := q) (by simp)
          refine ⟨by simp, ?_⟩
          intro x hx
          rcases List.mem_cons.mp hx with rfl | hx
          · exact hk.symm
          · exact hq.2 x hx
        · exact ih (List.mem_cons_of_mem _ h)
      · rcases List.mem_cons.mp h with rfl | h
        · simp
        · exact ih h

end Line

end ChordSheet
