import ChordSheet.Note
import ChordSheet.Text.Pieces

/-!
# Paths

A path is a text whose parts are separated by slashes. Empty parts and parts `.` are *void*:
they lead nowhere, except that a `.` at the very front of a relative path is kept. The *file
name* is the last part that is not void, unless that is `..`. The transposition of a sheet is
named after the sheet and stands beside it.

Names of files need not be text on every computer. A name that is none cannot be typed at the prompt
but can be given on a command line; it is left out here, and so is what becomes of its bytes that
are not text when a transposition is named after it.

* `fileName?_ne_dots` : a file name is neither void nor `..`.
-/

set_option autoImplicit false

namespace ChordSheet

/-- The text of a path. -/
abbrev Path := String

namespace Path

/-- A part that leads nowhere. -/
def isVoid (part : List Char) : Bool := part == [] || part == ['.']

/-- Splits off what every path on the way up keeps: the slash of an absolute path, or the `.`
at the front of a relative one. -/
def anchor : List Char → List Char × List Char
  | '/' :: cs => (['/'], cs)
  | ['.'] => (['.'], [])
  | '.' :: '/' :: cs => (['.'], '/' :: cs)
  | cs => ([], cs)

/-- The anchor of a path, and its parts from the last to the first without void parts at the
end. -/
def parts (p : List Char) : List Char × List (List Char) :=
  let (a, body) := anchor p
  (a, (Text.pieces '/' body).reverse.dropWhile isVoid)

/-- The file name of a path. -/
def fileName? (p : List Char) : Option (List Char) :=
  match (parts p).2 with
  | [] => none
  | last :: _ => if last = ['.', '.'] then none else some last

/-- The path without its last part and without void parts before that. -/
def parent? (p : List Char) : Option (List Char) :=
  match parts p with
  | (a, _ :: rest) => some (a ++ Text.join '/' (rest.dropWhile isVoid).reverse)
  | (a, []) => if a = ['.'] then some [] else none

/-- The path that a path means when it is read from a base: an absolute path means itself, any
other goes on from the base after a slash. -/
def append (base p : List Char) : List Char :=
  if p.head? = some '/' then p
  else if base = [] || base.getLast? = some '/' then base ++ p
  else base ++ '/' :: p

/-- The path with another file name. If it had none, the new name goes on from the whole
path. -/
def withFileName (p name : List Char) : List Char :=
  match fileName? p with
  | some _ => append ((parent? p).getD []) name
  | none => append p name

/-- The stem and the extension of a file name: it is cut at its last dot, unless it has none or
that is its first character. -/
def stemAndExtension (name : List Char) : List Char × Option (List Char) :=
  match Text.cutLast? (· == '.') name with
  | some (c :: cs, extension) => (c :: cs, some extension)
  | _ => (name, none)

/-- The name of the transposition of a sheet with this file name. -/
def outputName (name suffix : List Char) (key : Key) : List Char :=
  match stemAndExtension name with
  | (stem, some extension) => stem ++ suffix ++ key.letter :: '.' :: extension
  | (stem, none) => stem ++ suffix ++ [key.letter]

/-- Where the transposition of a sheet goes. -/
def output (input : Path) (suffix : String) (key : Key) : Path :=
  let p := input.toList
  String.ofList (withFileName p (outputName ((fileName? p).getD []) suffix.toList key))

theorem isVoid_of_parts {p last : List Char} {rest : List (List Char)}
    (h : (parts p).2 = last :: rest) : isVoid last = false := by
  have hne : (parts p).2 ≠ [] := by simp [h]
  have hhead : (parts p).2.head hne = last := by simp [h]
  rw [← hhead]
  exact List.head_dropWhile_not isVoid hne

theorem fileName?_ne_dots {p name : List Char} (h : fileName? p = some name) :
    isVoid name = false ∧ name ≠ ['.', '.'] := by
  unfold fileName? at h
  split at h
  · cases h
  · rename_i last rest hp
    split at h
    · cases h
    · rename_i hd
      cases h
      exact ⟨isVoid_of_parts hp, hd⟩

end Path

end ChordSheet
