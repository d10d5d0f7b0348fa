/-!
# Structured data

Values in which records are kept and exchanged: the values of JSON. Of numbers only the integers
are told apart; a number written with a point or an exponent is *inexact*, and nothing in the
library reads one, so its digits are not kept.

* `field?_eq_some_iff` : a field is found under its name if there is exactly one of that name.
* `count?_eq_some_iff`, `text?_eq_some_iff`, `constant?_eq_some_iff` : what is read from a value.
-/

set_option autoImplicit false

namespace ChordSheet.Record

/-- A structured value. -/
inductive Value where
  | null
  | boolean (value : Bool)
  | integer (value : Int)
  | inexact
  | text (value : String)
  | array (items : List Value)
  | object (fields : List (String × Value))
  deriving Repr, Inhabited

/-- The value of a field. A name that no field has, or more than one, has no value. -/
def field? (fields : List (String × Value)) (name : String) : Option Value :=
  match fields.filter fun f => f.1 == name with
  | [(_, v)] => some v
  | _ => none

/-- One more than the largest count. -/
def countLimit : Int := 18446744073709551616

/-- Reads a count: an integer from zero to below the limit. -/
def count? : Value → Option Nat
  | .integer n => if 0 ≤ n ∧ n < countLimit then some n.toNat else none
  | _ => none

/-- Reads a text. -/
def text? : Value → Option String
  | .text s => some s
  | _ => none

/-- Reads the name of a constant: the name alone, or as the only field of an object with the
value null. -/
def constant? : Value → Option String
  | .text name => some name
  | .object [(name, .null)] => some name
  | _ => none

section Laws

variable {fields : List (String × Value)} {name s : String} {v : Value} {n : Nat}

theorem field?_eq_some_iff :
    field? fields name = some v ↔ (fields.filter fun f => f.1 == name) = [(name, v)] := by
  unfold field?
  split
  · rename_i other w hfilter
    have hmem : (other, w) ∈ fields.filter fun f => f.1 == name := by
      rw [hfilter]
      exact List.mem_singleton_self _
    obtain rfl : other = name := eq_of_beq (List.mem_filter.mp hmem).2
    rw [hfilter, List.cons.injEq, Prod.mk.injEq, Option.some.injEq]
    simp
  · rename_i hother
    exact iff_of_false (by simp) fun h => hother _ _ h

theorem mem_of_field? (h : field? fields name = some v) {w : Value} :
    (name, w) ∈ fields ↔ w = v := by
  have hmem : (name, w) ∈ fields ↔ (name, w) ∈ fields.filter fun f => f.1 == name := by
    simp [List.mem_filter]
  rw [hmem, field?_eq_some_iff.mp h, List.mem_singleton, Prod.mk.injEq]
  simp

/-- Among fields of different names each is found. -/
theorem field?_of_mem (hnames : (fields.map Prod.fst).Nodup) (h : (name, v) ∈ fields) :
    field? fields name = some v := by
  induction fields with
  | nil => cases h
  | cons f fields ih =>
    obtain ⟨hnew, hnames⟩ := List.nodup_cons.mp hnames
    have hrest : f.1 = name → fields.filter (fun g => g.1 == name) = [] := by
      intro hf
      rw [List.filter_eq_nil_iff]
      intro g hg heq
      exact hnew (List.mem_map.mpr ⟨g, hg, (eq_of_beq heq).trans hf.symm⟩)
    rw [field?_eq_some_iff]
    rcases List.mem_cons.mp h with rfl | hmem
    · simp only [List.filter_cons, beq_self_eq_true, if_true, hrest]
    · have hf : f.1 ≠ name := fun hf => hnew (List.mem_map.mpr ⟨_, hmem, hf.symm⟩)
      simp only [List.filter_cons, beq_iff_eq, hf, if_false]
      exact field?_eq_some_iff.mp (ih hnames hmem)

/-- A field of another name changes nothing. -/
theorem field?_append_cons {other : String} (before after : List (String × Value)) (w : Value)
    (h : other ≠ name) :
    field? (before ++ (other, w) :: after) name = field? (before ++ after) name := by
  simp only [field?, List.filter_append, List.filter_cons, beq_iff_eq, h, if_false]

theorem count?_eq_some_iff : count? v = some n ↔ v = .integer n ∧ (n : Int) < countLimit := by
  cases v with
  | integer i =>
    simp only [count?, Value.integer.injEq]
    split <;> simp <;> omega
  | _ => simp [count?]

theorem count?_of_lt (h : (n : Int) < countLimit) : count? (.integer n) = some n :=
  count?_eq_some_iff.mpr ⟨rfl, h⟩

theorem text?_eq_some_iff : text? v = some s ↔ v = .text s := by
  cases v <;> simp [text?]

theorem constant?_eq_some_iff :
    constant? v = some s ↔ v = .text s ∨ v = .object [(s, .null)] := by
  unfold constant?
  split <;> simp_all

end Laws

end ChordSheet.Record
