import ChordSheet.Text.Clusters
import ChordSheet.Text.Measure

/-!
# Lines as they are typed

A backspace in a typed line takes the cluster before it back. The line remembers in one byte how
many bytes a cluster has, so only the remainder by 256 counts: a cluster of 256 bytes stays, and
of a larger one only the end is taken back.

* `erase_type` : a backspace takes back what was typed just before it.
* `edited_eq_self` : a line without backspaces is taken as it was typed.
-/

set_option autoImplicit false

namespace ChordSheet

/-- What a typed line holds. -/
structure TypedLine where
  /-- The characters, the last one first. -/
  characters : List Char
  /-- The sizes of the clusters in bytes, that of the last one first. -/
  sizes : List UInt8
  deriving DecidableEq, Repr

namespace TypedLine

/-- The character that takes the cluster before it back. -/
def backspace : Char := '\x08'

/-- A line on which nothing has been typed. -/
def empty : TypedLine := ⟨[], []⟩

/-- The line with one more cluster. -/
def type (l : TypedLine) (cluster : List Char) : TypedLine :=
  ⟨cluster.reverse ++ l.characters, (Text.byteLength cluster).toUInt8 :: l.sizes⟩

/-- The line without its last cluster. -/
def erase (l : TypedLine) : TypedLine :=
  match l.sizes with
  | [] => l
  | size :: sizes => ⟨Text.dropBytes size.toNat l.characters, sizes⟩

/-- Takes a cluster, which may be a backspace. -/
def take (l : TypedLine) (cluster : List Char) : TypedLine :=
  if cluster = [backspace] then l.erase else l.type cluster

/-- What is left of a typed text after its backspaces. -/
def edited (text : List Char) : List Char :=
  ((Text.clusters text).foldl take empty).characters.reverse

theorem erase_type {cluster : List Char} (h : Text.byteLength cluster < 256) (l : TypedLine) :
    (l.type cluster).erase = l := by
  have size : (Text.byteLength cluster).toUInt8.toNat = Text.byteLength cluster := by
    simpa using h
  simp only [type, erase, size]
  rw [← Text.byteLength_reverse, Text.dropBytes_append]

theorem foldl_take {clusters : List (List Char)} (h : [backspace] ∉ clusters) :
    ∀ l : TypedLine,
      (clusters.foldl take l).characters = clusters.flatten.reverse ++ l.characters := by
  induction clusters with
  | nil => intro l; rfl
  | cons g gs ih =>
    intro l
    obtain ⟨hg, hgs⟩ := not_or.mp (mt List.mem_cons.mpr h)
    rw [List.foldl_cons, ih hgs, take, if_neg (Ne.symm hg)]
    simp [type]

theorem edited_eq_self {text : List Char} (h : backspace ∉ text) : edited text = text := by
  have none : [backspace] ∉ Text.clusters text := fun hm => h <| by
    rw [← Text.flatten_clusters text]
    exact List.mem_flatten_of_mem hm List.mem_cons_self
  simp [edited, foldl_take none, Text.flatten_clusters, empty]

end TypedLine

end ChordSheet
