import ChordSheet.Text.Combining
import ChordSheet.Text.Invisible

/-!
# Quoted texts

A quoted text stands between double quotes and shows every character: double quotes, backslashes
and the common controls have a short form after a backslash, and a character that does not show
by itself is written as its code point in hexadecimal digits. The two sound marks of half width
join the character before them and still show by themselves, as letters do.

* `quote_of_plain` : a text of plain characters is quoted as it is.
-/

set_option autoImplicit false

namespace ChordSheet.Text

/-- A code point in lowercase hexadecimal digits between braces. -/
def codePoint (c : Char) : List Char :=
  '\\' :: 'u' :: '\x7b' :: (Nat.toDigits 16 c.toNat ++ ['\x7d'])

/-- Whether a character is one of the two sound marks of half width. -/
def isSoundMark (c : Char) : Bool := c = '\uff9e' || c = '\uff9f'

/-- How a character is written between quotes. -/
def quoteChar (c : Char) : List Char :=
  if c = '\x00' then ['\\', '0']
  else if c = '\t' then ['\\', 't']
  else if c = '\r' then ['\\', 'r']
  else if c = '\n' then ['\\', 'n']
  else if c = '\x22' || c = '\\' then ['\\', c]
  else if (isCombining c && !isSoundMark c) || isInvisible c then codePoint c
  else [c]

/-- The text between quotes. -/
def quote (s : List Char) : List Char := '\x22' :: (s.flatMap quoteChar ++ ['\x22'])

theorem quote_of_plain {s : List Char} (h : ∀ c ∈ s, quoteChar c = [c]) :
    quote s = '\x22' :: (s ++ ['\x22']) := by
  have : s.flatMap quoteChar = s := by
    induction s with
    | nil => rfl
    | cons c cs ih =>
      simp only [List.flatMap_cons, h c List.mem_cons_self]
      rw [ih fun d hd => h d (List.mem_cons_of_mem _ hd)]
      rfl
  rw [quote, this]

end ChordSheet.Text
