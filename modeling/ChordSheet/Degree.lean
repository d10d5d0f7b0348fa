/-!
# Scale degrees

The seven places of a major scale. A degree fixes the quality of the triad built on it, and its
Roman numeral shows that quality: uppercase for major, lowercase for minor, and a degree sign
for the diminished triad on the seventh.

* `ofIndex?_index` : a degree is found again at its index.
-/

set_option autoImplicit false

namespace ChordSheet

/-- A place in a major scale. -/
inductive Degree where
  | I | II | III | IV | V | VI | VII
  deriving DecidableEq, Repr, Inhabited

namespace Degree

/-- All degrees in order. -/
def all : List Degree := [I, II, III, IV, V, VI, VII]

/-- The place counted from zero. -/
def index : Degree → Nat
  | I => 0 | II => 1 | III => 2 | IV => 3 | V => 4 | VI => 5 | VII => 6

/-- The degree at a place counted from zero. -/
def ofIndex? (i : Nat) : Option Degree := all[i]?

/-- The Roman numeral of the triad on a degree. -/
def numeral : Degree → String
  | I => "I"
  | II => "ii"
  | III => "iii"
  | IV => "IV"
  | V => "V"
  | VI => "vi"
  | VII => "vii°"

theorem mem_all (d : Degree) : d ∈ all := by cases d <;> decide

theorem ofIndex?_index (d : Degree) : ofIndex? d.index = some d := by cases d <;> rfl

end Degree

end ChordSheet
