import ChordSheet.Line.Lexer
import ChordSheet.Transposition

/-!
# Moving a line of chords

Every word of a line that is a chord symbol is moved; blanks and all other words are kept, so
that the chords stay above their syllables as well as their lengths allow. The first word that
cannot be moved stops the line.

* `runs_cons_of_symbol`, `runs_cons_of_not_symbol` : what happens to a run at the head.
-/

set_option autoImplicit false

namespace ChordSheet

/-- A line after its chords were moved. -/
structure MovedLine where
  /-- The text of the line. -/
  text : String
  /-- How many symbols were moved. -/
  chords : Nat
  deriving DecidableEq, Repr

namespace Run

/-- The text of a run without blanks at either end. -/
def word (r : Run) : List Char := Text.trim r.text

/-- Whether a run is a word that is a chord symbol. -/
def isSymbol (r : Run) : Bool := r.kind == .word && ChordSheet.isSymbol r.word

end Run

namespace Transposition

/-- Moves the symbols among some runs; gives the text and the number of symbols. -/
def runs (t : Transposition) : List Run → Except TranspositionError (List Char × Nat)
  | [] => .ok ([], 0)
  | r :: rs =>
    if r.isSymbol then do
      let moved ← t.symbol r.word
      let (rest, n) ← t.runs rs
      pure (moved ++ rest, n + 1)
    else do
      let (rest, n) ← t.runs rs
      pure (r.text ++ rest, n)

/-- Moves the symbols of a line. -/
def line (t : Transposition) (line : String) : Except TranspositionError MovedLine := do
  let (text, chords) ← t.runs (Line.runs line.toList)
  pure ⟨String.ofList text, chords⟩

theorem runs_cons_of_symbol {t : Transposition} {r : Run} {rs : List Run}
    {moved rest : List Char} {n : Nat} (hr : r.isSymbol = true) (hm : t.symbol r.word = .ok moved)
    (hs : t.runs rs = .ok (rest, n)) : t.runs (r :: rs) = .ok (moved ++ rest, n + 1) := by
  simp [runs, hr, hm, hs, bind, Except.bind, pure, Except.pure]

theorem runs_cons_of_not_symbol {t : Transposition} {r : Run} {rs : List Run}
    {rest : List Char} {n : Nat} (hr : r.isSymbol = false) (hs : t.runs rs = .ok (rest, n)) :
    t.runs (r :: rs) = .ok (r.text ++ rest, n) := by
  simp [runs, hr, hs, bind, Except.bind, pure, Except.pure]

end Transposition

end ChordSheet
